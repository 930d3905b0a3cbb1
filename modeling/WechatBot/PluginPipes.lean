import WechatBot.PluginFraming
import WechatBot.Runs
import WechatBot.SerialServer
import WechatBot.UuidText

/-!
# Calls of a plugin process over its pipes

`PluginProcess.call` of several tasks on one process: the call lock, the request that is
written, the line that is read for it, and the ways a call ends in between. The runner reads
the other ends of both pipes. A call that is cancelled leaves its answer to be read by the
next one.
-/
namespace WechatBot.PluginPipes

open JsonReader PluginFraming SerialServer
open JsonText (Units utf16)
open PyData (UUID uuidStr)
open Runs (run run_append run_cons run_invariant run_relation)

/-- How a call ends. The text of a refusal is that of the error in the answer. -/
inductive Ending where
  | returned (result : Value)
  | refused (error : Value)
  | failed (detail : String)
  | cancelled

/-- The await inside the call lock; `closing` is the wait of `_invalidate` for the end of the
process. -/
inductive Stage where
  | draining
  | reading
  | closing (detail : String)

structure Holder where
  request : Request
  stage : Stage

/-- A process with its pipes and the calls on it. `attached` says that `_process` is not
`None`, `exited` that the process has a return code. The last three are records: the requests
that were written, the number of answers that were read, and that of calls that were
cancelled in between. -/
structure Pipes (σ : Type) where
  runner : Runner σ
  attached : Bool
  exited : Bool
  stdin : List Nat
  stdout : List Nat
  waiting : List Request
  holder : Option Holder
  ended : List (Request × Ending)
  written : List Request
  received : Nat
  abandoned : Nat

variable {σ : Type}

/-- A process that has just been created, before its first call. -/
def Pipes.start (world : σ) : Pipes σ where
  runner := ⟨false, false, world⟩
  attached := true
  exited := false
  stdin := []
  stdout := []
  waiting := []
  holder := none
  ended := []
  written := []
  received := 0
  abandoned := 0

/-- The identifiers of all calls so far. -/
def Pipes.ids (s : Pipes σ) : List UUID :=
  s.waiting.map (·.id) ++ (s.holder.toList.map (·.request.id) ++ s.ended.map (·.1.id))

def Pipes.end_ (s : Pipes σ) (request : Request) (ending : Ending) : Pipes σ :=
  { s with ended := s.ended ++ [(request, ending)] }

/-- `_invalidate` up to its wait. -/
def Pipes.invalidate (s : Pipes σ) (request : Request) (detail : String) : Pipes σ :=
  { s with attached := false, holder := some ⟨request, .closing detail⟩ }

def responseLine (response : Fields) : List Nat := (Value.obj response).write [32] ++ [10]

/-- `response.get("id") == request_id`. -/
def matchesId (request : Request) (response : Fields) : Bool :=
  match Value.get response (word "id") with
  | some (.str id) => decide (id = requestId request.id)
  | _ => false

/-- `response.get("ok") is True`. -/
def isOk (response : Fields) : Bool :=
  match Value.get response (word "ok") with
  | some (.bool true) => true
  | _ => false

section Steps

variable (plugin : Plugin σ) (decode : List Nat → Option (List Nat))

def mismatch : String := "plugin response envelope did not match request"

/-- The end of a call that has read a line. -/
def receiveLine (s : Pipes σ) (request : Request) (line : List Nat) : Pipes σ :=
  if maxProtocolLineBytes + 2 < line.length then
    s.invalidate request "plugin response exceeds protocol limit"
  else if maxProtocolLineBytes < line.length then
    s.invalidate request "plugin returned no valid response"
  else
    match loads decode line with
    | none => s.invalidate request "plugin returned invalid protocol JSON"
    | some (.obj response) =>
      if !matchesId request response then
        s.invalidate request mismatch
      else if !isOk response then
        { s with holder := none }.end_ request
          (.refused ((Value.get response (word "error")).getD .null))
      else
        { s with holder := none }.end_ request
          (.returned ((Value.get response (word "result")).getD .null))
    | some _ => s.invalidate request mismatch

/-- `readline` of the process; it waits for a line or the end of the output. -/
def receive (s : Pipes σ) (request : Request) : Option (Pipes σ) :=
  if s.stdout = [] then
    if s.exited then some (s.invalidate request "plugin returned no valid response") else none
  else
    let (line, rest) := readline (s.stdout.length + 1) s.stdout
    some (receiveLine decode { s with stdout := rest, received := s.received + 1 } request line)

/-- Inside the lock, up to the first await. -/
def enter (s : Pipes σ) (request : Request) : Pipes σ :=
  let s := { s with waiting := s.waiting.filter fun other => decide (other.id ≠ request.id) }
  if !s.attached || s.exited then s.end_ request (.failed "plugin process is not running")
  else
    { s with
      stdin := s.stdin ++ request.line
      written := s.written ++ [request]
      holder := some ⟨request, .draining⟩ }

inductive Action where
  | begin_ (request : Request)
  | enter (id : UUID)
  | drained
  | broken
  | receive
  | timeout
  | closed
  /-- A call is cancelled while it waits for the lock. -/
  | cancel (id : UUID)
  /-- The call in the lock is cancelled. -/
  | interrupt
  /-- The runner reads a line and answers it. -/
  | serve
  | exit
  /-- `stop` lets go of the process. -/
  | close

def step (s : Pipes σ) : Action → Option (Pipes σ)
  | .begin_ request =>
    -- the identifier is new
    if request.id ∈ s.ids then none else some { s with waiting := s.waiting ++ [request] }
  | .enter id =>
    if s.holder.isSome then none
    else (s.waiting.find? fun request => decide (request.id = id)).map fun request =>
      enter s request
  | .drained =>
    match s.holder with
    | some ⟨request, .draining⟩ => some { s with holder := some ⟨request, .reading⟩ }
    | _ => none
  | .broken =>
    match s.holder, s.exited with
    | some ⟨request, .draining⟩, true =>
      some (s.invalidate request "plugin process transport failed")
    | _, _ => none
  | .receive =>
    match s.holder with
    | some ⟨request, .reading⟩ => receive decode s request
    | _ => none
  | .timeout =>
    match s.holder with
    | some ⟨request, .reading⟩ => some (s.invalidate request "plugin call timed out")
    | _ => none
  | .closed =>
    match s.holder, s.exited with
    | some ⟨request, .closing detail⟩, true =>
      some ({ s with holder := none }.end_ request (.failed detail))
    | _, _ => none
  | .cancel id =>
    (s.waiting.find? fun request => decide (request.id = id)).map fun request =>
      { s with waiting := s.waiting.filter fun other => decide (other.id ≠ id) }.end_ request
        .cancelled
  | .interrupt =>
    match s.holder with
    | some ⟨request, .closing _⟩ => some ({ s with holder := none }.end_ request .cancelled)
    | some ⟨request, _⟩ =>
      some ({ s with holder := none, abandoned := s.abandoned + 1 }.end_ request .cancelled)
    | none => none
  | .serve =>
    if s.exited || s.runner.shutdownRequested || s.stdin.isEmpty then none
    else
      let (line, rest) := readline (maxProtocolLineBytes + 1) s.stdin
      let (response, next) := answer plugin decode line s.runner
      some { s with runner := next, stdin := rest, stdout := s.stdout ++ responseLine response }
  | .exit => some { s with exited := true }
  | .close => if s.holder.isSome then none else some { s with attached := false }

/-- The runner as it answers the written requests. -/
def serveRequest (request : Request) (runner : Runner σ) : Fields × Runner σ :=
  answer plugin decode request.line runner

end Steps

theorem utf16_small {s : List Nat} (h : ∀ c ∈ s, c < 0x10000) : utf16 s = s.map (BitVec.ofNat 16) := by
  induction s with
  | nil => rfl
  | cons c s ih =>
    have hrest := ih fun d hd => h d (List.mem_cons_of_mem c hd)
    unfold utf16 at hrest ⊢
    rw [List.flatMap_cons, if_pos (h c List.mem_cons_self), hrest]
    rfl

theorem requestId_inj {u v : UUID} (h : requestId u = requestId v) : u = v := by
  have hsmall : ∀ w : UUID, ∀ c ∈ uuidStr w, c < 0x10000 := by
    intro w c hc
    have := UuidText.mem_uuidStr hc
    omega
  unfold requestId at h
  rw [utf16_small (hsmall u), utf16_small (hsmall v)] at h
  apply PyData.uuidStr_inj
  have htoNat : ∀ w : UUID, ((uuidStr w).map (BitVec.ofNat 16)).map BitVec.toNat = uuidStr w := by
    intro w
    rw [List.map_map, List.map_congr_left, List.map_id]
    intro c hc
    have := hsmall w c hc
    simp only [Function.comp_apply, BitVec.toNat_ofNat, id_eq]
    omega
  rw [← htoNat u, h, htoNat v]

variable {plugin : Plugin σ} {decode : List Nat → Option (List Nat)} {first : Runner σ}
  {s s' : Pipes σ}

/-- An answer has the identifier of its own request, or none. -/
theorem matchesId_serve {request other : Request} {runner : Runner σ}
    (h : matchesId request (serveRequest plugin decode other runner).1 = true) :
    other.id = request.id := by
  unfold matchesId serveRequest at h
  have hpasses : other.payload.length ≤ maxProtocolLineBytes := other.passes
  rcases Nat.lt_or_eq_of_le hpasses with hshort | hfull
  · rw [answer_request hshort, get_handle] at h
    exact requestId_inj (of_decide_eq_true h)
  · rw [answer_oversized hfull, get_failure] at h
    cases h

theorem matchesId_self {request : Request} {runner : Runner σ}
    (h : request.payload.length < maxProtocolLineBytes) :
    matchesId request (serveRequest plugin decode request runner).1 = true := by
  unfold matchesId serveRequest
  rw [answer_request h, get_handle]
  exact decide_eq_true rfl

theorem isOk_failure (id : Value) (error : String) :
    isOk (PluginFraming.failure id error) = false := by
  have hok : Value.get (PluginFraming.failure id error) (word "ok") = some (.bool false) := by
    rw [Value.get, PluginFraming.failure]
    rfl
  rw [isOk, hok]

theorem result_success (id result : Value) :
    (Value.get (PluginFraming.success id result) (word "result")).getD .null = result := by
  rw [Value.get, PluginFraming.success]
  rfl

/-- A request that the runner has answered with a result, in the state that the requests
written before it have left. -/
def Executed (plugin : Plugin σ) (decode : List Nat → Option (List Nat)) (first : Runner σ)
    (written : List Request) (request : Request) (result : Value) : Prop :=
  ∃ before later next, written = before ++ request :: later ∧
    dispatch plugin request.method request.params
      (after (serveRequest plugin decode) first before) = (some (.value result), next)

theorem executed_append {written : List Request} {request other : Request} {result : Value}
    (h : Executed plugin decode first written request result) :
    Executed plugin decode first (written ++ [other]) request result := by
  obtain ⟨before, later, next, rfl, hdispatch⟩ := h
  exact ⟨before, later ++ [other], next, by simp, hdispatch⟩

theorem dispatch_of_isOk {request : Request} {runner : Runner σ}
    (h : isOk (serveRequest plugin decode request runner).1 = true) :
    ∃ next, dispatch plugin request.method request.params runner =
      (some (.value ((Value.get (serveRequest plugin decode request runner).1
        (word "result")).getD .null)), next) := by
  unfold serveRequest at h ⊢
  have hpasses : request.payload.length ≤ maxProtocolLineBytes := request.passes
  rcases Nat.lt_or_eq_of_le hpasses with hshort | hfull
  · rw [answer_request hshort] at h ⊢
    have hid : Value.get request.fields (word "id") = some (.str (requestId request.id)) := rfl
    have hmethod : Value.get request.fields (word "method") = some (.str request.method) := rfl
    have hparams : Value.get request.fields (word "params") = some (.obj request.params) := rfl
    simp only [handle, hid, hmethod, hparams, Option.getD_some] at h ⊢
    cases hdispatch : dispatch plugin request.method request.params runner with
    | mk outcome next =>
      rw [hdispatch] at h
      cases outcome with
      | none =>
        simp only [isOk_failure] at h
        cases h
      | some result =>
        cases result with
        | value v => exact ⟨next, by rw [result_success]⟩
        | unserializable =>
          simp only [isOk_failure] at h
          cases h
  · rw [answer_oversized hfull, isOk_failure] at h
    cases h

theorem loads_response (response : Fields) :
    loads decode (responseLine response) = some (.obj response) := by
  have hascii : (responseLine response).all (fun c => decide (0 < c ∧ c < 128)) = true := by
    rw [List.all_eq_true]
    intro c hc
    rw [decide_eq_true_eq]
    rcases List.mem_append.mp hc with hc | hc
    · have hprint := printable_write (printable_cons (by omega) printable_nil) (.obj response) c hc
      omega
    · rw [List.mem_singleton] at hc
      omega
  rw [loads, if_pos hascii, Option.bind_some]
  exact readText_output ⟨[], response⟩

/-- What a call makes of an answer. -/
theorem receiveLine_cases (decode : List Nat → Option (List Nat)) (s : Pipes σ) (request : Request)
    (response : Fields) :
    (∃ detail, (detail = mismatch → matchesId request response = false) ∧
      receiveLine decode s request (responseLine response) = s.invalidate request detail) ∨
      matchesId request response = true ∧
        ((∃ error, receiveLine decode s request (responseLine response) =
            { s with holder := none }.end_ request (.refused error)) ∨
          isOk response = true ∧ receiveLine decode s request (responseLine response) =
            { s with holder := none }.end_ request
              (.returned ((Value.get response (word "result")).getD .null))) := by
  unfold receiveLine
  split
  · exact .inl ⟨_, fun h => absurd h (by decide), rfl⟩
  split
  · exact .inl ⟨_, fun h => absurd h (by decide), rfl⟩
  rw [loads_response]
  simp only
  split
  · rename_i hmismatch
    exact .inl ⟨_, fun _ => by simpa using hmismatch, rfl⟩
  rename_i hmatches
  right
  refine ⟨by simpa using hmatches, ?_⟩
  split
  · exact .inl ⟨_, rfl⟩
  · rename_i hok
    exact .inr ⟨by simpa using hok, rfl⟩

/-- The bytes in the pipes are those of the requests that the runner has not read and of the
answers that the process has not read. -/
def Flow (plugin : Plugin σ) (decode : List Nat → Option (List Nat)) (first : Runner σ)
    (s : Pipes σ) : Prop :=
  ∃ done queued, s.written = done ++ queued ∧ s.stdin = queued.flatMap Request.line ∧
    s.runner = after (serveRequest plugin decode) first done ∧ s.received ≤ done.length ∧
    s.stdout = ((replies (serveRequest plugin decode) first done).drop s.received).flatMap
      responseLine

/-- The call in the lock has written its request and waits for the answer. -/
def Pipes.awaiting (s : Pipes σ) : Option Request :=
  match s.holder with
  | some ⟨request, .draining⟩ => some request
  | some ⟨request, .reading⟩ => some request
  | _ => none

structure Core (plugin : Plugin σ) (decode : List Nat → Option (List Nat)) (first : Runner σ)
    (s : Pipes σ) : Prop where
  flow : Flow plugin decode first s
  ids : s.ids.Nodup
  writtenIds : (s.written.map (·.id)).Nodup
  entered : ∀ request ∈ s.written,
    request.id ∈ s.holder.toList.map (·.request.id) ++ s.ended.map (·.1.id)
  returned : ∀ request result, (request, .returned result) ∈ s.ended →
    Executed plugin decode first s.written request result

/-- As long as the process is attached, every written request has its answer read, was
abandoned, or is that of the call in the lock, the last one. -/
structure Sound (plugin : Plugin σ) (decode : List Nat → Option (List Nat)) (first : Runner σ)
    (s : Pipes σ) : Prop where
  core : Core plugin decode first s
  last : ∀ request, s.awaiting = some request → s.attached = true ∧
    ∃ before, s.written = before ++ [request]
  balance : s.attached = true →
    s.written.length = s.received + s.abandoned + s.awaiting.toList.length

theorem sound_start (world : σ) : Sound plugin decode ⟨false, false, world⟩ (.start world) where
  core := {
    flow := ⟨[], [], rfl, rfl, rfl, Nat.le_refl _, rfl⟩
    ids := List.nodup_nil
    writtenIds := List.nodup_nil
    entered := fun request h => by cases h
    returned := fun request result h => by cases h }
  last request h := by cases h
  balance _ := rfl

/-- A call leaves the queue of the lock. -/
theorem nodup_move {waiting : List Request} {others : List UUID} {request : Request}
    (h : (waiting.map (·.id) ++ others).Nodup) (hmem : request ∈ waiting) :
    ((waiting.filter fun other => decide (other.id ≠ request.id)).map (·.id) ++
      request.id :: others).Nodup := by
  obtain ⟨hwaiting, hothers, hdisjoint⟩ := List.nodup_append.mp h
  have hsub : ((waiting.filter fun other => decide (other.id ≠ request.id)).map (·.id)).Sublist
      (waiting.map (·.id)) := List.filter_sublist.map _
  have hid : request.id ∈ waiting.map (·.id) := List.mem_map_of_mem hmem
  refine List.nodup_append.mpr ⟨hwaiting.sublist hsub, List.nodup_cons.mpr ⟨?_, hothers⟩, ?_⟩
  · intro hin
    exact hdisjoint _ hid _ hin rfl
  · intro a ha b hb
    rcases List.mem_cons.mp hb with rfl | hb
    · obtain ⟨other, hother, rfl⟩ := List.mem_map.mp ha
      exact of_decide_eq_true (List.mem_filter.mp hother).2
    · exact hdisjoint a (hsub.subset ha) b hb

theorem find_waiting {id : UUID} {request : Request}
    (h : (s.waiting.find? fun request => decide (request.id = id)) = some request) :
    request ∈ s.waiting ∧ request.id = id :=
  ⟨List.mem_of_find?_eq_some h,
    of_decide_eq_true (List.find?_eq_some_iff_append.mp h).1⟩

/-- A call that has not written ends. -/
theorem Core.end_waiting (hs : Core plugin decode first s) {request : Request}
    (hmem : request ∈ s.waiting) {ending : Ending} (hending : ∀ result, ending ≠ .returned result) :
    Core plugin decode first
      ({ s with waiting := s.waiting.filter fun other => decide (other.id ≠ request.id) }.end_
        request ending) := by
  refine ⟨hs.flow, ?_, hs.writtenIds, ?_, ?_⟩
  · have hmoved := nodup_move hs.ids hmem
    refine (List.Perm.nodup_iff ?_).mp hmoved
    simp only [Pipes.ids, Pipes.end_, List.map_append, List.map_cons, List.map_nil]
    apply List.Perm.append_left
    rw [← List.append_assoc]
    exact (List.perm_append_singleton _ _).symm
  · intro other hother
    have hentered := hs.entered other hother
    simp only [Pipes.end_, List.map_append, ← List.append_assoc]
    exact List.mem_append_left _ hentered
  · intro other result hother
    rcases List.mem_append.mp hother with hother | hother
    · exact hs.returned other result hother
    · cases List.mem_singleton.mp hother
      exact absurd rfl (hending result)

/-- The call in the lock ends. -/
theorem Core.end_holder (hs : Core plugin decode first s) {request : Request} {stage : Stage}
    (hholder : s.holder = some ⟨request, stage⟩) {ending : Ending} {abandoned : Nat}
    (hending : ∀ result, ending = .returned result →
      Executed plugin decode first s.written request result) :
    Core plugin decode first
      ({ s with holder := none, abandoned := abandoned }.end_ request ending) := by
  refine ⟨hs.flow, ?_, hs.writtenIds, ?_, ?_⟩
  · have hids := hs.ids
    simp only [Pipes.ids, hholder, Option.toList_some, List.map_cons, List.map_nil] at hids
    refine (List.Perm.nodup_iff ?_).mp hids
    simp only [Pipes.ids, Pipes.end_, Option.toList_none, List.map_nil, List.map_append,
      List.map_cons]
    exact List.Perm.append_left _ (List.perm_append_singleton _ _).symm
  · intro other hother
    have hentered := hs.entered other hother
    simp only [hholder, Option.toList_some, List.map_cons, List.map_nil] at hentered
    simp only [Pipes.end_, Option.toList_none, List.map_nil, List.map_append, List.map_cons]
    exact (List.perm_append_singleton _ _).mem_iff.mpr hentered
  · intro other result hother
    rcases List.mem_append.mp hother with hother | hother
    · exact hs.returned other result hother
    · cases List.mem_singleton.mp hother
      exact hending result rfl

/-- The call in the lock goes on. -/
theorem Core.stage (hs : Core plugin decode first s) {request : Request} {stage next : Stage}
    (hholder : s.holder = some ⟨request, stage⟩) {attached : Bool} :
    Core plugin decode first
      { s with attached := attached, holder := some ⟨request, next⟩ } := by
  refine ⟨hs.flow, ?_, hs.writtenIds, ?_, hs.returned⟩
  · have hids := hs.ids
    simp only [Pipes.ids, hholder, Option.toList_some, List.map_cons] at hids ⊢
    exact hids
  · intro other hother
    have hentered := hs.entered other hother
    simp only [hholder, Option.toList_some, List.map_cons] at hentered ⊢
    exact hentered

theorem Sound.invalidate (hs : Core plugin decode first s) {request : Request} {stage : Stage}
    (hholder : s.holder = some ⟨request, stage⟩) (detail : String) :
    Sound plugin decode first (s.invalidate request detail) := by
  refine ⟨hs.stage hholder, ?_, ?_⟩
  · intro other h
    cases h
  · intro h
    cases h

/-- The runner reads the oldest request. -/
theorem Flow.serve {response : Fields} {next : Runner σ} {line rest : List Nat}
    (hs : Flow plugin decode first s) (hne : s.stdin ≠ [])
    (hline : readline (maxProtocolLineBytes + 1) s.stdin = (line, rest))
    (hanswer : answer plugin decode line s.runner = (response, next)) :
    Flow plugin decode first
      { s with runner := next, stdin := rest, stdout := s.stdout ++ responseLine response } := by
  obtain ⟨done, queued, hwritten, hstdin, hrunner, hreceived, hstdout⟩ := hs
  cases queued with
  | nil => exact absurd hstdin hne
  | cons request queued =>
    rw [hstdin, List.flatMap_cons, readline_request, Prod.mk.injEq] at hline
    obtain ⟨rfl, rfl⟩ := hline
    rw [hrunner] at hanswer
    have hserve : serveRequest plugin decode request
        (after (serveRequest plugin decode) first done) = (response, next) := hanswer
    refine ⟨done ++ [request], queued, by simp [hwritten], rfl, ?_, ?_, ?_⟩
    · simp [after_append, after, hserve]
    · simpa using hreceived.trans (Nat.le_succ _)
    · simp only [replies_append, replies, hserve]
      rw [List.drop_append_of_le_length (by simpa using hreceived), List.flatMap_append, hstdout]
      simp

/-- The process reads the oldest answer. -/
theorem Flow.receive {line rest : List Nat} (hs : Flow plugin decode first s)
    (hne : s.stdout ≠ []) (hline : readline (s.stdout.length + 1) s.stdout = (line, rest)) :
    Flow plugin decode first { s with stdout := rest, received := s.received + 1 } ∧
      ∃ request, s.written[s.received]? = some request ∧
        line = responseLine (serveRequest plugin decode request
          (after (serveRequest plugin decode) first (s.written.take s.received))).1 := by
  obtain ⟨done, queued, hwritten, hstdin, hrunner, hreceived, hstdout⟩ := hs
  cases hdrop : (replies (serveRequest plugin decode) first done).drop s.received with
  | nil =>
    rw [hdrop] at hstdout
    exact absurd hstdout hne
  | cons response responses =>
    obtain ⟨request, hrequest, hresponse, hrest⟩ := drop_replies hdrop
    have hlt : s.received < done.length := (List.getElem?_eq_some_iff.mp hrequest).1
    rw [hdrop, List.flatMap_cons] at hstdout
    have hnone : 10 ∉ (Value.obj response).write [32] :=
      newline_not_mem (printable_write (printable_cons (by omega) printable_nil) _)
    rw [hstdout, responseLine, readline_line _ _ hnone (by simp), Prod.mk.injEq] at hline
    obtain ⟨rfl, rfl⟩ := hline
    refine ⟨⟨done, queued, hwritten, hstdin, hrunner, hlt, by rw [← hrest]⟩, request, ?_, ?_⟩
    · rw [hwritten, List.getElem?_append_left hlt]
      exact hrequest
    · rw [hwritten, List.take_append_of_le_length hreceived, ← hresponse]
      rfl

/-- The place of a written request is that of its identifier. -/
theorem Core.place (hs : Core plugin decode first s) {before : List Request} {request other : Request}
    {i : Nat} (hlast : s.written = before ++ [request]) (hother : s.written[i]? = some other)
    (hid : other.id = request.id) : i = before.length ∧ other = request := by
  have hids := hs.writtenIds
  rw [hlast, List.map_append, List.nodup_append] at hids
  rw [hlast] at hother
  by_cases hlt : i < before.length
  · rw [List.getElem?_append_left hlt] at hother
    have hin : other.id ∈ before.map (·.id) := List.mem_map_of_mem (List.mem_of_getElem? hother)
    exact absurd hid (hids.2.2 _ hin _ (by simp))
  · rw [List.getElem?_append_right (not_lt.mp hlt), List.getElem?_eq_some_iff] at hother
    obtain ⟨hi, hother⟩ := hother
    rw [List.length_singleton] at hi
    have heq : i = before.length := by omega
    subst heq
    exact ⟨rfl, by simpa using hother.symm⟩

/-- What a call does with the next line. An answer that it accepts is to its own request, the
last one, and no call was abandoned. -/
theorem receive_spec (hs : Sound plugin decode first s) {request : Request}
    (hholder : s.holder = some ⟨request, .reading⟩) (h : receive decode s request = some s') :
    Sound plugin decode first s' ∧
      (s.abandoned = 0 ∨ s'.attached = false ∧ s'.ended = s.ended) ∧
      ∀ caller, s'.holder = some ⟨caller, .closing mismatch⟩ →
        0 < s.abandoned ∨ caller.payload.length = maxProtocolLineBytes := by
  have hawaiting : s.awaiting = some request := by rw [Pipes.awaiting, hholder]
  obtain ⟨hattached, before, hlast⟩ := hs.last request hawaiting
  have hbalance := hs.balance hattached
  rw [hawaiting, hlast, List.length_append, Option.toList_some, List.length_singleton] at hbalance
  unfold receive at h
  split at h
  · split at h
    · cases h
      refine ⟨Sound.invalidate hs.core hholder _, .inr ⟨rfl, rfl⟩, fun _ h => ?_⟩
      simp [Pipes.invalidate, mismatch] at h
    · cases h
  rename_i hne
  cases hline : readline (s.stdout.length + 1) s.stdout with
  | mk line rest =>
    rw [hline] at h
    cases h
    obtain ⟨hflow, other, hother, hresponse⟩ := hs.core.flow.receive hne hline
    rw [hresponse]
    have hcore : Core plugin decode first { s with stdout := rest, received := s.received + 1 } :=
      ⟨hflow, hs.core.ids, hs.core.writtenIds, hs.core.entered, hs.core.returned⟩
    have hread : ({ s with stdout := rest, received := s.received + 1 } : Pipes σ).holder =
        some ⟨request, .reading⟩ := hholder
    obtain ⟨detail, hmismatch, heq⟩ | ⟨hmatches, hended⟩ := receiveLine_cases decode
      { s with stdout := rest, received := s.received + 1 } request
      (serveRequest plugin decode other
        (after (serveRequest plugin decode) first (s.written.take s.received))).1
    · rw [heq]
      refine ⟨Sound.invalidate hcore hread detail, .inr ⟨rfl, rfl⟩, ?_⟩
      intro caller hclosing
      obtain ⟨rfl, rfl⟩ : request = caller ∧ detail = mismatch := by
        simpa [Pipes.invalidate] using hclosing
      by_contra hboth
      rw [not_or] at hboth
      have hpasses : request.payload.length ≤ maxProtocolLineBytes := request.passes
      have hreceived : s.received = before.length := by omega
      rw [hlast, hreceived, List.getElem?_append_right (Nat.le_refl _), Nat.sub_self] at hother
      cases hother
      have hmatches := hmismatch rfl
      rw [matchesId_self (by omega)] at hmatches
      cases hmatches
    · obtain ⟨hplace, rfl⟩ := hs.core.place hlast hother (matchesId_serve hmatches)
      have habandoned : s.abandoned = 0 := by omega
      have hopen : ∀ ending,
          (∀ result, ending = .returned result →
            Executed plugin decode first s.written other result) →
          Sound plugin decode first ({ s with
            stdout := rest, received := s.received + 1, holder := none }.end_ other ending) := by
        intro ending hending
        refine ⟨hcore.end_holder hread hending, fun _ h => (by cases h), fun _ => ?_⟩
        simp only [Pipes.end_, Pipes.awaiting, hlast, List.length_append, List.length_singleton,
          Option.toList_none, List.length_nil]
        omega
      rcases hended with ⟨error, heq⟩ | ⟨hok, heq⟩
      · rw [heq]
        exact ⟨hopen _ fun _ h => (by cases h), .inl habandoned, fun _ h => (by cases h)⟩
      · rw [heq]
        refine ⟨hopen _ ?_, .inl habandoned, fun _ h => (by cases h)⟩
        intro result hresult
        rw [← Ending.returned.inj hresult]
        obtain ⟨next, hdispatch⟩ := dispatch_of_isOk hok
        rw [hlast, hplace, List.take_left] at hdispatch ⊢
        exact ⟨before, [], next, rfl, hdispatch⟩

/-- A call that ends without having written leaves the rest as it is. -/
theorem Sound.end_waiting (hs : Sound plugin decode first s) {request : Request}
    (hmem : request ∈ s.waiting) {ending : Ending} (hending : ∀ result, ending ≠ .returned result) :
    Sound plugin decode first
      ({ s with waiting := s.waiting.filter fun other => decide (other.id ≠ request.id) }.end_
        request ending) :=
  ⟨hs.core.end_waiting hmem hending, hs.last, hs.balance⟩

/-- A call writes its request. -/
theorem Sound.write (hs : Sound plugin decode first s) {request : Request}
    (hmem : request ∈ s.waiting) (hholder : s.holder = none) (hattached : s.attached = true) :
    Sound plugin decode first { s with
      waiting := s.waiting.filter fun other => decide (other.id ≠ request.id)
      stdin := s.stdin ++ request.line
      written := s.written ++ [request]
      holder := some ⟨request, .draining⟩ } := by
  have hids := hs.core.ids
  simp only [Pipes.ids, hholder, Option.toList_none, List.map_nil, List.nil_append] at hids
  have hentered := hs.core.entered
  simp only [hholder, Option.toList_none, List.map_nil, List.nil_append] at hentered
  refine ⟨⟨?_, ?_, ?_, ?_, ?_⟩, ?_, ?_⟩
  · obtain ⟨done, queued, hwritten, hstdin, hrunner, hreceived, hstdout⟩ := hs.core.flow
    refine ⟨done, queued ++ [request], ?_, ?_, hrunner, hreceived, hstdout⟩
    · simp [hwritten]
    · simp [hstdin]
  · exact nodup_move hids hmem
  · rw [List.map_append, List.nodup_append]
    refine ⟨hs.core.writtenIds, List.nodup_singleton _, ?_⟩
    intro a ha b hb hab
    obtain ⟨other, hother, rfl⟩ := List.mem_map.mp ha
    cases List.mem_singleton.mp hb
    -- it waited, so it is none of those that have been in the lock
    have hin := hentered other hother
    rw [hab] at hin
    exact (List.nodup_append.mp hids).2.2 _ (List.mem_map_of_mem hmem) _ hin rfl
  · intro other hother
    rcases List.mem_append.mp hother with hother | hother
    · exact List.mem_append_right _ (hentered other hother)
    · cases List.mem_singleton.mp hother
      exact List.mem_append_left _ (by simp)
  · exact fun other result hother => executed_append (hs.core.returned other result hother)
  · intro other hother
    cases hother
    exact ⟨hattached, s.written, rfl⟩
  · intro _
    have hbalance := hs.balance hattached
    have hnone : s.awaiting = none := by rw [Pipes.awaiting, hholder]
    rw [hnone, Option.toList_none, List.length_nil] at hbalance
    simp only [List.length_append, List.length_singleton, Pipes.awaiting, Option.toList_some]
    omega

theorem step_sound {action : Action} (hs : Sound plugin decode first s)
    (h : step plugin decode s action = some s') : Sound plugin decode first s' := by
  cases action with
  | begin_ request =>
    simp only [step] at h
    split at h
    · cases h
    rename_i hfresh
    cases h
    refine ⟨⟨hs.core.flow, ?_, hs.core.writtenIds, hs.core.entered, hs.core.returned⟩, hs.last,
      hs.balance⟩
    have hcons := List.nodup_cons.mpr ⟨hfresh, hs.core.ids⟩
    refine (List.Perm.nodup_iff ?_).mp hcons
    simp only [Pipes.ids, List.map_append, List.map_cons, List.map_nil, List.append_assoc,
      List.singleton_append]
    exact List.perm_middle.symm
  | enter id =>
    simp only [step] at h
    split at h
    · cases h
    rename_i hholder
    obtain ⟨request, hfound, rfl⟩ := Option.map_eq_some_iff.mp h
    obtain ⟨hmem, -⟩ := find_waiting hfound
    have hnone : s.holder = none := by simpa using hholder
    unfold enter
    simp only
    split
    · exact hs.end_waiting hmem fun _ h => by cases h
    · rename_i hopen
      exact hs.write hmem hnone (by simp_all)
  | drained =>
    simp only [step] at h
    split at h
    · rename_i request hholder
      cases h
      have hawaiting : s.awaiting = some request := by rw [Pipes.awaiting, hholder]
      refine ⟨hs.core.stage hholder, ?_, ?_⟩
      · intro other hother
        cases hother
        exact hs.last request hawaiting
      · intro hattached
        have hbalance := hs.balance hattached
        rwa [hawaiting] at hbalance
    · cases h
  | broken =>
    simp only [step] at h
    split at h
    · rename_i request hholder hexited
      cases h
      exact Sound.invalidate hs.core hholder _
    · cases h
  | receive =>
    simp only [step] at h
    split at h
    · rename_i request hholder
      exact (receive_spec hs hholder h).1
    · cases h
  | timeout =>
    simp only [step] at h
    split at h
    · rename_i request hholder
      cases h
      exact Sound.invalidate hs.core hholder _
    · cases h
  | closed =>
    simp only [step] at h
    split at h
    · rename_i request detail hholder hexited
      cases h
      have hnone : s.awaiting = none := by rw [Pipes.awaiting, hholder]
      refine ⟨hs.core.end_holder hholder fun _ h => (by cases h), fun _ h => (by cases h), ?_⟩
      intro hattached
      have hbalance := hs.balance hattached
      rwa [hnone] at hbalance
    · cases h
  | cancel id =>
    simp only [step] at h
    obtain ⟨request, hfound, rfl⟩ := Option.map_eq_some_iff.mp h
    obtain ⟨hmem, rfl⟩ := find_waiting hfound
    exact hs.end_waiting hmem fun _ h => by cases h
  | interrupt =>
    simp only [step] at h
    split at h
    · rename_i request detail hholder
      cases h
      have hnone : s.awaiting = none := by rw [Pipes.awaiting, hholder]
      refine ⟨hs.core.end_holder hholder fun _ h => (by cases h), fun _ h => (by cases h), ?_⟩
      intro hattached
      have hbalance := hs.balance hattached
      rwa [hnone] at hbalance
    · rename_i request stage hopen hholder
      cases h
      have hawaiting : s.awaiting = some request := by
        cases stage with
        | draining => rw [Pipes.awaiting, hholder]
        | reading => rw [Pipes.awaiting, hholder]
        | closing detail => exact absurd rfl (hopen detail)
      refine ⟨hs.core.end_holder hholder fun _ h => (by cases h), fun _ h => (by cases h), ?_⟩
      intro hattached
      have hbalance := hs.balance hattached
      rw [hawaiting, Option.toList_some, List.length_singleton] at hbalance
      simp only [Pipes.end_, Pipes.awaiting, Option.toList_none, List.length_nil]
      omega
    · cases h
  | serve =>
    simp only [step] at h
    split at h
    · cases h
    rename_i hrunning
    simp only [Bool.or_eq_true, List.isEmpty_iff, not_or] at hrunning
    cases h
    exact ⟨⟨hs.core.flow.serve hrunning.2 rfl rfl, hs.core.ids, hs.core.writtenIds, hs.core.entered,
      hs.core.returned⟩, hs.last, hs.balance⟩
  | exit =>
    cases h
    exact ⟨⟨hs.core.flow, hs.core.ids, hs.core.writtenIds, hs.core.entered, hs.core.returned⟩,
      hs.last, hs.balance⟩
  | close =>
    simp only [step] at h
    split at h
    · cases h
    rename_i hholder
    cases h
    have hnone : s.awaiting = none := by
      have : s.holder = none := by simpa using hholder
      rw [Pipes.awaiting, this]
    refine ⟨⟨hs.core.flow, hs.core.ids, hs.core.writtenIds, hs.core.entered, hs.core.returned⟩, ?_,
      fun h => (by cases h)⟩
    intro request hawaiting
    rw [Pipes.awaiting] at hnone hawaiting
    simp only [hnone] at hawaiting
    cases hawaiting

theorem run_sound {world : σ} {actions : List Action}
    (h : run (step plugin decode) (.start world) actions = some s) :
    Sound plugin decode ⟨false, false, world⟩ s :=
  run_invariant (Sound plugin decode _) (fun _ _ _ hs hstep => step_sound hs hstep)
    (sound_start world) h

/-- What later states keep: the order of the requests and, once a call was abandoned, the
results there are. -/
structure Later (s t : Pipes σ) : Prop where
  written : s.written <+: t.written
  abandoned : s.abandoned ≤ t.abandoned
  returned : 0 < s.abandoned → ∀ request result, (request, Ending.returned result) ∈ t.ended →
    (request, Ending.returned result) ∈ s.ended

theorem Later.refl (s : Pipes σ) : Later s s :=
  ⟨List.prefix_refl _, Nat.le_refl _, fun _ _ _ h => h⟩

theorem Later.trans {a b c : Pipes σ} (h : Later a b) (h' : Later b c) : Later a c where
  written := h.written.trans h'.written
  abandoned := h.abandoned.trans h'.abandoned
  returned hpos request result hmem :=
    h.returned hpos request result
      (h'.returned (Nat.lt_of_lt_of_le hpos h.abandoned) request result hmem)

theorem later_same (hwritten : s.written <+: s'.written) (habandoned : s.abandoned ≤ s'.abandoned)
    (hended : s'.ended = s.ended) : Later s s' :=
  ⟨hwritten, habandoned, fun _ _ _ hmem => hended ▸ hmem⟩

/-- A call ends without a result. -/
theorem later_ended {ending : Ending} {request : Request} (hwritten : s.written <+: s'.written)
    (habandoned : s.abandoned ≤ s'.abandoned) (hended : s'.ended = s.ended ++ [(request, ending)])
    (hending : ∀ result, ending ≠ .returned result) : Later s s' := by
  refine ⟨hwritten, habandoned, fun _ other result hmem => ?_⟩
  rw [hended] at hmem
  rcases List.mem_append.mp hmem with hmem | hmem
  · exact hmem
  · cases List.mem_singleton.mp hmem
    exact absurd rfl (hending result)

theorem receiveLine_frame (decode : List Nat → Option (List Nat)) (s : Pipes σ) (request : Request)
    (line : List Nat) : (receiveLine decode s request line).written = s.written ∧
      (receiveLine decode s request line).abandoned = s.abandoned := by
  unfold receiveLine
  split
  · exact ⟨rfl, rfl⟩
  split
  · exact ⟨rfl, rfl⟩
  split
  · exact ⟨rfl, rfl⟩
  · split
    · exact ⟨rfl, rfl⟩
    · split
      · exact ⟨rfl, rfl⟩
      · exact ⟨rfl, rfl⟩
  · exact ⟨rfl, rfl⟩

theorem receive_later {request : Request} (hs : Sound plugin decode first s)
    (hholder : s.holder = some ⟨request, .reading⟩) (h : receive decode s request = some s') :
    Later s s' := by
  have hframe : s'.written = s.written ∧ s'.abandoned = s.abandoned := by
    unfold receive at h
    split at h
    · split at h
      · cases h
        exact ⟨rfl, rfl⟩
      · cases h
    · cases h
      exact receiveLine_frame ..
  refine ⟨hframe.1 ▸ List.prefix_refl _, hframe.2.symm.le, fun hpos other result hmem => ?_⟩
  rcases (receive_spec hs hholder h).2.1 with hnone | ⟨-, hended⟩
  · omega
  · exact hended ▸ hmem

theorem step_later {action : Action} (hs : Sound plugin decode first s)
    (h : step plugin decode s action = some s') : Later s s' := by
  have hprefix := List.prefix_refl s.written
  cases action with
  | begin_ request =>
    simp only [step] at h
    split at h
    · cases h
    · cases h
      exact later_same hprefix (Nat.le_refl _) rfl
  | enter id =>
    simp only [step] at h
    split at h
    · cases h
    obtain ⟨request, -, rfl⟩ := Option.map_eq_some_iff.mp h
    unfold enter
    simp only
    split
    · exact later_ended hprefix (Nat.le_refl _) rfl fun _ h => by cases h
    · exact later_same (List.prefix_append _ _) (Nat.le_refl _) rfl
  | drained =>
    simp only [step] at h
    split at h
    · cases h
      exact later_same hprefix (Nat.le_refl _) rfl
    · cases h
  | broken =>
    simp only [step] at h
    split at h
    · cases h
      exact later_same hprefix (Nat.le_refl _) rfl
    · cases h
  | receive =>
    simp only [step] at h
    split at h
    · rename_i request hholder
      exact receive_later hs hholder h
    · cases h
  | timeout =>
    simp only [step] at h
    split at h
    · cases h
      exact later_same hprefix (Nat.le_refl _) rfl
    · cases h
  | closed =>
    simp only [step] at h
    split at h
    · cases h
      exact later_ended hprefix (Nat.le_refl _) rfl fun _ h => by cases h
    · cases h
  | cancel id =>
    simp only [step] at h
    obtain ⟨request, -, rfl⟩ := Option.map_eq_some_iff.mp h
    exact later_ended hprefix (Nat.le_refl _) rfl fun _ h => by cases h
  | interrupt =>
    simp only [step] at h
    split at h
    · cases h
      exact later_ended hprefix (Nat.le_refl _) rfl fun _ h => by cases h
    · cases h
      exact later_ended hprefix (Nat.le_succ _) rfl fun _ h => by cases h
    · cases h
  | serve =>
    simp only [step] at h
    split at h
    · cases h
    · cases h
      exact later_same hprefix (Nat.le_refl _) rfl
  | exit =>
    cases h
    exact later_same hprefix (Nat.le_refl _) rfl
  | close =>
    simp only [step] at h
    split at h
    · cases h
    · cases h
      exact later_same hprefix (Nat.le_refl _) rfl

theorem run_later {t : Pipes σ} {actions : List Action} : ∀ {s : Pipes σ},
    Sound plugin decode first s → run (step plugin decode) s actions = some t → Later s t := by
  induction actions with
  | nil =>
    intro s _ h
    cases h
    exact Later.refl _
  | cons action actions ih =>
    intro s hs h
    obtain ⟨next, hstep, hrest⟩ := (run_cons _ _ _ _ _).mp h
    exact (step_later hs hstep).trans (ih (step_sound hs hstep) hrest)

/-- The calls of a process are linearized by the order in which their requests were written,
whichever of them are cancelled, run out of time or fail in between: a result is what the
plugin has returned for this request after the requests before it, no request is answered
twice, and a call that begins after another one has returned comes later in the order. -/
theorem calls_linearized (plugin : Plugin σ) (decode : List Nat → Option (List Nat)) (world : σ)
    {before later : List Action} {s t : Pipes σ}
    (hbefore : run (step plugin decode) (.start world) before = some s)
    (hlater : run (step plugin decode) s later = some t) :
    (t.written.map (·.id)).Nodup ∧ s.written <+: t.written ∧
      ∀ request result, (request, .returned result) ∈ s.ended →
        Executed plugin decode ⟨false, false, world⟩ s.written request result := by
  have hs := run_sound hbefore
  have ht := run_sound ((run_append _ _ _ _ _).mpr ⟨s, hbefore, hlater⟩)
  exact ⟨ht.core.writtenIds, (run_later hs hlater).written, hs.core.returned⟩

/-- Once a call was cancelled after it had written its request, no call on the process
returns a result any more, and the first one that reads an answer lets go of the process. An
answer to another request is only ever read after such a cancellation, or for a payload of
the full length. -/
theorem abandoned_call_ends_process (plugin : Plugin σ) (decode : List Nat → Option (List Nat))
    (world : σ) {before later : List Action} {s t next : Pipes σ}
    (hbefore : run (step plugin decode) (.start world) before = some s)
    (hlater : run (step plugin decode) s later = some t)
    (hnext : step plugin decode t .receive = some next) :
    (0 < s.abandoned → next.attached = false ∧
      ∀ request result, (request, .returned result) ∈ next.ended →
        (request, .returned result) ∈ s.ended) ∧
    ∀ request, next.holder = some ⟨request, .closing mismatch⟩ →
      0 < t.abandoned ∨ request.payload.length = maxProtocolLineBytes := by
  have hs := run_sound hbefore
  have ht := run_sound ((run_append _ _ _ _ _).mpr ⟨s, hbefore, hlater⟩)
  have hst := run_later hs hlater
  have hstep := hnext
  simp only [step] at hnext
  split at hnext
  · rename_i request hholder
    obtain ⟨-, hcases, hmismatch⟩ := receive_spec ht hholder hnext
    refine ⟨fun hpos => ?_, hmismatch⟩
    have hpos' := Nat.lt_of_lt_of_le hpos hst.abandoned
    rcases hcases with hnone | ⟨hattached, -⟩
    · omega
    · exact ⟨hattached, (hst.trans (step_later ht hstep)).returned hpos⟩
  · cases hnext

theorem sample_passes :
    ((Value.obj (envelope 1 (word "initialize") [])).write []).length ≤ maxProtocolLineBytes ∧
      ((Value.obj (envelope 2 (word "handle_event") [])).write []).length ≤ maxProtocolLineBytes ∧
      ((Value.obj (envelope 3 (word "handle_event") [])).write []).length ≤
        maxProtocolLineBytes := by
  decide +kernel

def initializeCall : Request := ⟨1, word "initialize", [], sample_passes.1⟩

def abandonedCall : Request := ⟨2, word "handle_event", [], sample_passes.2.1⟩

def nextCall : Request := ⟨3, word "handle_event", [], sample_passes.2.2⟩

def initializes : List Action := [.begin_ initializeCall, .enter 1, .serve, .drained, .receive]

def abandons : List Action := [.begin_ abandonedCall, .enter 2, .drained, .interrupt]

def callsAgain : List Action := [.begin_ nextCall, .enter 3, .serve, .serve, .drained]

/-- The identifiers of the calls that have a result. -/
def Pipes.answered (s : Pipes σ) : List UUID :=
  s.ended.filterMap fun call =>
    match call.2 with
    | .returned _ => some call.1.id
    | _ => none

theorem mem_answered {s : Pipes σ} {id : UUID} (h : id ∈ s.answered) :
    ∃ request result, request.id = id ∧ (request, .returned result) ∈ s.ended := by
  obtain ⟨⟨request, ending⟩, hmem, heq⟩ := List.mem_filterMap.mp h
  cases ending with
  | returned result => exact ⟨request, result, Option.some.inj heq, hmem⟩
  | refused error => cases heq
  | failed detail => cases heq
  | cancelled => cases heq

def silentRun (actions : List Action) : Option (Pipes Unit) :=
  run (step silentPlugin some) (.start ()) actions

theorem silentRun_samples :
    (silentRun initializes).any (fun s => decide (1 ∈ s.answered)) = true ∧
      (silentRun (initializes ++ abandons)).any (fun s => decide (0 < s.abandoned)) = true ∧
      (silentRun ((initializes ++ abandons) ++ (callsAgain ++ [.receive]))).isSome = true := by
  decide +kernel

theorem calls_linearized_initialized : ∃ s request result, silentRun initializes = some s ∧
    request.id = 1 ∧ (request, .returned result) ∈ s.ended ∧
    Executed silentPlugin some ⟨false, false, ()⟩ s.written request result := by
  obtain ⟨s, hrun, hanswered⟩ := (Option.any_eq_true _ _).mp silentRun_samples.1
  obtain ⟨request, result, hid, hmem⟩ := mem_answered (of_decide_eq_true hanswered)
  have hexecuted : Executed silentPlugin some ⟨false, false, ()⟩ s.written request result :=
    (calls_linearized silentPlugin some () hrun (Runs.run_nil _ _)).2.2 request result hmem
  exact ⟨s, request, result, hrun, hid, hmem, hexecuted⟩

theorem abandoned_call_ends_process_sample : ∃ s t next,
    silentRun (initializes ++ abandons) = some s ∧ 0 < s.abandoned ∧
    run (step silentPlugin some) s callsAgain = some t ∧
    step silentPlugin some t .receive = some next ∧ next.attached = false ∧
    ∀ request result, (request, .returned result) ∈ next.ended →
      (request, .returned result) ∈ s.ended := by
  obtain ⟨-, habandoned, hall⟩ := silentRun_samples
  obtain ⟨s, hbefore, hpos⟩ := (Option.any_eq_true _ _).mp habandoned
  have hpos : 0 < s.abandoned := of_decide_eq_true hpos
  obtain ⟨next, hall⟩ := Option.isSome_iff_exists.mp hall
  obtain ⟨same, hsame, hrest⟩ := (run_append _ _ _ _ _).mp hall
  obtain rfl : s = same := Option.some.inj (hbefore.symm.trans hsame)
  obtain ⟨t, hlater, hlast⟩ := (run_append _ _ _ _ _).mp hrest
  obtain ⟨after, hnext, hdone⟩ := (Runs.run_cons _ _ _ _ _).mp hlast
  obtain rfl : next = after := (Option.some.inj hdone).symm
  have hends := (abandoned_call_ends_process silentPlugin some () hbefore hlater hnext).1 hpos
  exact ⟨s, t, next, hbefore, hpos, hlater, hnext, hends.1, hends.2⟩

end WechatBot.PluginPipes
