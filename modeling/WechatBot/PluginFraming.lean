import WechatBot.JsonReader

/-!
# The lines of the plugin protocol

A plugin process writes each request as one line and the runner in the child reads lines up
to a limit, answers each and writes the answer as one line. `decode` is what `json.loads`
makes of bytes that are no plain ASCII text.
-/
namespace WechatBot.PluginFraming

open JsonReader
open JsonText (Units quoted utf16)
open PyData (UUID py uuidStr)

abbrev Fields := List (Units × Value)

/-- A literal of the source as it stands in a JSON string. -/
def word (s : String) : Units := utf16 (py s)

def maxProtocolLineBytes : Nat := 1048576

def requestId (id : UUID) : Units := utf16 (uuidStr id)

def envelope (id : UUID) (method : Units) (params : Fields) : Fields :=
  [(word "id", .str (requestId id)), (word "method", .str method), (word "params", .obj params)]

/-- A request that `call` sends: it has passed its check of the size. -/
structure Request where
  id : UUID
  method : Units
  params : Fields
  passes : ((Value.obj (envelope id method params)).write []).length ≤ maxProtocolLineBytes

namespace Request

def fields (request : Request) : Fields := envelope request.id request.method request.params

def payload (request : Request) : List Nat := (Value.obj request.fields).write []

def line (request : Request) : List Nat := request.payload ++ [10]

end Request

inductive Handler where
  | startup | health | handle_event | invoke_tool | shutdown
  deriving DecidableEq, Repr

/-- What a handler returns, or something that `json.dumps` refuses. -/
inductive Result where
  | value (v : Value)
  | unserializable

/-- How the call of a handler ends: there is none, it is no function, it returns, or an
ordinary exception is raised. -/
inductive Reply where
  | missing
  | notCallable
  | returned (result : Result)
  | raised

/-- A plugin over a state of its own; `load` is whether `_load_plugin` succeeds. -/
structure Plugin (σ : Type) where
  load : σ → Bool × σ
  call : Handler → List Value → σ → Reply × σ

structure Runner (σ : Type) where
  loaded : Bool
  shutdownRequested : Bool
  world : σ

def statusOf (status : String) : Result := .value (.obj [(word "status", .str (word status))])

/-- The answer to a request that has failed. -/
def failure (id : Value) (error : String) : Fields :=
  [(word "id", id), (word "ok", .bool false), (word "error", .str (word error))]

def success (id result : Value) : Fields :=
  [(word "id", id), (word "ok", .bool true), (word "result", result)]

section Run

variable {σ : Type} (plugin : Plugin σ) (decode : List Nat → Option (List Nat))

/-- `none` for an exception. -/
def optionalCall (handler : Handler) (args : List Value) (runner : Runner σ) :
    Option Result × Runner σ :=
  match plugin.call handler args runner.world with
  | (.missing, world) => (some (.value .null), { runner with world := world })
  | (.returned result, world) => (some result, { runner with world := world })
  | (.notCallable, world) => (none, { runner with world := world })
  | (.raised, world) => (none, { runner with world := world })

def requiredCall (handler : Handler) (args : List Value) (runner : Runner σ) :
    Option Result × Runner σ :=
  match plugin.call handler args runner.world with
  | (.returned result, world) => (some result, { runner with world := world })
  | (.missing, world) => (none, { runner with world := world })
  | (.notCallable, world) => (none, { runner with world := world })
  | (.raised, world) => (none, { runner with world := world })

def initializePlugin (params : Fields) (runner : Runner σ) : Option Result × Runner σ :=
  if runner.loaded then (none, runner)
  else
    match plugin.load runner.world with
    | (false, world) => (none, { runner with world := world })
    | (true, world) =>
      let config := (Value.get params (word "config")).getD (.obj [])
      match optionalCall plugin .startup [config] { runner with loaded := true, world := world } with
      | (none, runner) => (none, runner)
      | (some _, runner) => (some (statusOf "ready"), runner)

def health (runner : Runner σ) : Option Result × Runner σ :=
  match optionalCall plugin .health [] runner with
  | (some (.value .null), runner) => (some (statusOf "ok"), runner)
  | outcome => outcome

def shutdown (runner : Runner σ) : Option Result × Runner σ :=
  match optionalCall plugin .shutdown [] runner with
  | (none, runner) => (none, runner)
  | (some _, runner) => (some (statusOf "stopped"), { runner with shutdownRequested := true })

/-- `_dispatch`. -/
def dispatch (method : Units) (params : Fields) (runner : Runner σ) : Option Result × Runner σ :=
  let param (key : String) (default : Value) := (Value.get params (word key)).getD default
  if method = word "initialize" then initializePlugin plugin params runner
  else if !runner.loaded then (none, runner)
  else if method = word "health" then health plugin runner
  else if method = word "handle_event" then
    requiredCall plugin .handle_event [param "event" (.obj [])] runner
  else if method = word "invoke_tool" then
    requiredCall plugin .invoke_tool
      [param "tool_name" .null, param "arguments" (.obj []), param "context" (.obj [])] runner
  else if method = word "shutdown" then shutdown plugin runner
  else (none, runner)

def handle (request : Fields) (runner : Runner σ) : Fields × Runner σ :=
  let id := (Value.get request (word "id")).getD .null
  match id, Value.get request (word "method") with
  | .str _, some (.str method) =>
    match (Value.get request (word "params")).getD (.obj []) with
    | .obj params =>
      match dispatch plugin method params runner with
      | (some (.value result), runner) => (success id result, runner)
      | (some .unserializable, runner) => (failure id "plugin call failed", runner)
      | (none, runner) => (failure id "plugin call failed", runner)
    | _ => (failure id "params must be an object", runner)
  | _, _ => (failure id "invalid request envelope", runner)

/-- `readline(limit)`: a line, or as much of it as the limit allows, and the rest. -/
def readline : Nat → List Nat → List Nat × List Nat
  | 0, s => ([], s)
  | _ + 1, [] => ([], [])
  | limit + 1, c :: s =>
    if c = 10 then ([c], s)
    else
      let (line, rest) := readline limit s
      (c :: line, rest)

/-- `json.loads` of a line; `none` for a ValueError. -/
def loads (line : List Nat) : Option Value :=
  (if line.all (fun c => decide (0 < c ∧ c < 128)) then some line else decode line).bind readText

def answer (line : List Nat) (runner : Runner σ) : Fields × Runner σ :=
  if maxProtocolLineBytes < line.length then
    (failure .null "request exceeds protocol limit", runner)
  else
    match loads decode line with
    | some (.obj request) => handle plugin request runner
    | _ => (failure .null "invalid JSON request", runner)

/-- A line that the runner has read and its answer. -/
structure Turn where
  line : List Nat
  response : Fields

def Turn.output (turn : Turn) : List Nat := (Value.obj turn.response).write [32] ++ [10]

/-- The loop of `Runner.run`, for at most `fuel` lines. -/
def turns : Nat → Runner σ → List Nat → List Turn
  | 0, _, _ => []
  | fuel + 1, runner, stdin =>
    if runner.shutdownRequested then []
    else
      let (line, rest) := readline (maxProtocolLineBytes + 1) stdin
      if line = [] then []
      else
        let (response, next) := answer plugin decode line runner
        ⟨line, response⟩ :: turns fuel next rest

/-- `Runner.run`; no line is empty, so the length of the input bounds their number. -/
def run (runner : Runner σ) (stdin : List Nat) : List Turn :=
  turns plugin decode stdin.length runner stdin

/-- The runner has read the request as its one line, and its answer is one line that the
process reads as an object with the request's identifier. -/
structure Answers (turn : Turn) (request : Request) : Prop where
  line : turn.line = request.line
  read : loads decode turn.line = some (.obj request.fields)
  oneLine : ∃ text, turn.output = text ++ [10] ∧ 10 ∉ text
  carries : ∃ fields, readText turn.output = some (.obj fields) ∧
    Value.get fields (word "id") = some (.str (requestId request.id))

/-- No request comes after a shutdown that the runner has carried out. -/
def Uninterrupted (runner : Runner σ) : List Request → Prop
  | [] => True
  | request :: requests =>
    runner.shutdownRequested = false ∧
      Uninterrupted (handle plugin request.fields runner).2 requests

end Run

section Lines

variable {σ : Type} {plugin : Plugin σ} {decode : List Nat → Option (List Nat)}
  {runner : Runner σ} {request : Request}

theorem payload_printable (request : Request) : Printable request.payload :=
  printable_write printable_nil _

theorem newline_not_mem {t : List Nat} (h : Printable t) : 10 ∉ t := by
  intro hmem
  have hprint := h 10 hmem
  omega

/-- A line that the limit admits is read whole. -/
theorem readline_line {limit : Nat} (text rest : List Nat) (hnone : 10 ∉ text)
    (hlimit : text.length < limit) : readline limit (text ++ [10] ++ rest) = (text ++ [10], rest) := by
  induction text generalizing limit with
  | nil =>
    cases limit with
    | zero => simp at hlimit
    | succ limit => rfl
  | cons c text ih =>
    cases limit with
    | zero => simp at hlimit
    | succ limit =>
      rw [List.length_cons] at hlimit
      have hc : c ≠ 10 := by
        rintro rfl
        exact hnone List.mem_cons_self
      have hrest : readline limit (text ++ [10] ++ rest) = (text ++ [10], rest) :=
        ih (fun hmem => hnone (List.mem_cons_of_mem c hmem)) (by omega)
      simp only [List.cons_append, readline, if_neg hc]
      rw [hrest]

theorem readline_request (request : Request) (rest : List Nat) :
    readline (maxProtocolLineBytes + 1) (request.line ++ rest) = (request.line, rest) := by
  have hpasses : request.payload.length ≤ maxProtocolLineBytes := request.passes
  exact readline_line request.payload rest (newline_not_mem (payload_printable request)) (by omega)

theorem loads_request (request : Request) : loads decode request.line = some (.obj request.fields) := by
  have hascii : request.line.all (fun c => decide (0 < c ∧ c < 128)) = true := by
    rw [List.all_eq_true]
    intro c hc
    rw [decide_eq_true_eq]
    rcases List.mem_append.mp hc with hc | hc
    · have hprint := payload_printable request c hc
      omega
    · rw [List.mem_singleton] at hc
      omega
  rw [loads, if_pos hascii, Option.bind_some]
  exact readText_write (by rfl) (.obj request.fields) (by rfl)

theorem length_line (request : Request) : request.line.length = request.payload.length + 1 := by
  rw [Request.line, List.length_append, List.length_singleton]

theorem answer_request (h : request.payload.length < maxProtocolLineBytes) :
    answer plugin decode request.line runner = handle plugin request.fields runner := by
  have hlength := length_line request
  rw [answer, if_neg (by omega), loads_request]

/-- The check of the process admits one length more than the runner. -/
theorem answer_oversized (h : request.payload.length = maxProtocolLineBytes) :
    answer plugin decode request.line runner =
      (failure .null "request exceeds protocol limit", runner) := by
  have hlength := length_line request
  rw [answer, if_pos (by omega)]

theorem response_oneLine (turn : Turn) : ∃ text, turn.output = text ++ [10] ∧ 10 ∉ text :=
  ⟨_, rfl, newline_not_mem (printable_write (printable_cons (by omega) printable_nil) _)⟩

theorem readText_output (turn : Turn) : readText turn.output = some (.obj turn.response) :=
  readText_write (by rfl) (.obj turn.response) (by rfl)

theorem get_failure (id : Value) (error : String) :
    Value.get (failure id error) (word "id") = some id := by
  rw [Value.get, failure]
  rfl

theorem get_success (id result : Value) : Value.get (success id result) (word "id") = some id := by
  rw [Value.get, success]
  rfl

/-- Whatever the plugin does, the answer has the identifier of the request. -/
theorem get_handle (plugin : Plugin σ) (request : Request) (runner : Runner σ) :
    Value.get (handle plugin request.fields runner).1 (word "id") =
      some (.str (requestId request.id)) := by
  have hid : Value.get request.fields (word "id") = some (.str (requestId request.id)) := rfl
  have hmethod : Value.get request.fields (word "method") = some (.str request.method) := rfl
  have hparams : Value.get request.fields (word "params") = some (.obj request.params) := rfl
  simp only [handle, hid, hmethod, hparams, Option.getD_some]
  cases hdispatch : dispatch plugin request.method request.params runner with
  | mk outcome next =>
    cases outcome with
    | none => exact get_failure _ _
    | some result =>
      cases result with
      | value v => exact get_success _ _
      | unserializable => exact get_failure _ _

/-- The next request is read as one line and answered. -/
theorem turns_request (requests : List Request) {fuel : Nat} (hopen : runner.shutdownRequested = false) :
    turns plugin decode (fuel + 1) runner ((request :: requests).flatMap Request.line) =
      ⟨request.line, (answer plugin decode request.line runner).1⟩ ::
        turns plugin decode fuel (answer plugin decode request.line runner).2
          (requests.flatMap Request.line) := by
  have hne : request.line ≠ [] := by simp [Request.line]
  rw [turns, hopen, List.flatMap_cons, readline_request]
  simp only [Bool.false_eq_true, if_false, if_neg hne]

theorem turns_shutdown {fuel : Nat} (stdin : List Nat) (h : runner.shutdownRequested = true) :
    turns plugin decode fuel runner stdin = [] := by
  cases fuel with
  | zero => rfl
  | succ fuel => rw [turns, if_pos h]

/-- The exchange from any state of the runner, by induction on the requests. -/
theorem turns_answer (requests : List Request) : ∀ {fuel : Nat} {runner : Runner σ},
    (requests.flatMap Request.line).length ≤ fuel →
    (List.Forall₂ (Answers decode)
        (turns plugin decode fuel runner (requests.flatMap Request.line)) requests ↔
      Uninterrupted plugin runner requests ∧
        ∀ request ∈ requests, request.payload.length < maxProtocolLineBytes) := by
  induction requests with
  | nil =>
    intro fuel runner _
    have hnone : turns plugin decode fuel runner [] = [] := by
      cases fuel with
      | zero => rfl
      | succ fuel =>
        rw [turns]
        split
        · rfl
        · rfl
    simp [hnone, Uninterrupted]
  | cons request requests ih =>
    intro fuel runner hfuel
    have hlength := length_line request
    rw [List.flatMap_cons, List.length_append] at hfuel
    obtain ⟨fuel, rfl⟩ : ∃ n, fuel = n + 1 := ⟨fuel - 1, by omega⟩
    have hrest : (requests.flatMap Request.line).length ≤ fuel := by omega
    have hpasses : request.payload.length ≤ maxProtocolLineBytes := request.passes
    cases hopen : runner.shutdownRequested with
    | true => simp [turns_shutdown _ hopen, Uninterrupted, hopen]
    | false =>
      rw [turns_request requests hopen, List.forall₂_cons]
      by_cases hsize : request.payload.length < maxProtocolLineBytes
      · rw [answer_request hsize, ih hrest]
        have hanswers : Answers decode
            ⟨request.line, (handle plugin request.fields runner).1⟩ request :=
          ⟨rfl, loads_request request, response_oneLine _, _, readText_output _,
            get_handle plugin request runner⟩
        simp [hanswers, Uninterrupted, hopen, hsize]
      · rw [answer_oversized (by omega)]
        constructor
        · rintro ⟨hanswers, -⟩
          obtain ⟨fields, hread, hid⟩ := hanswers.carries
          rw [readText_output, Option.some.injEq, Value.obj.injEq] at hread
          rw [← hread, get_failure] at hid
          cases hid
        · rintro ⟨-, hall⟩
          exact absurd (hall request List.mem_cons_self) hsize

theorem oversized_unanswered (h : request.payload.length = maxProtocolLineBytes) :
    ¬ List.Forall₂ (Answers decode)
      (run plugin decode runner ([request].flatMap Request.line)) [request] := by
  intro hanswers
  have hall := ((turns_answer [request] (Nat.le_refl _)).mp hanswers).2
  have hsize := hall request List.mem_cons_self
  omega

/-- Every request of a sequence is read as one line and answered with its identifier, exactly
when no payload has the full length that the process admits and none comes after a shutdown. -/
theorem framing_agrees (plugin : Plugin σ) (decode : List Nat → Option (List Nat))
    (runner : Runner σ) (requests : List Request) :
    List.Forall₂ (Answers decode) (run plugin decode runner (requests.flatMap Request.line))
        requests ↔
      Uninterrupted plugin runner requests ∧
        ∀ request ∈ requests, request.payload.length < maxProtocolLineBytes :=
  turns_answer requests (Nat.le_refl _)

end Lines

section Sample

/-- Every handler returns `None`. -/
def silentPlugin : Plugin Unit := ⟨fun s => (true, s), fun _ _ s => (.returned (.value .null), s)⟩

/-- An event with a text of the given length. -/
def longParams (length : Nat) : Fields := [(word "event", .str (List.replicate length 97))]

theorem length_longParams (length : Nat) :
    ((Value.obj (envelope 1 (word "handle_event") (longParams length))).write []).length =
      length + 91 := by
  have hquoted : (quoted (List.replicate length 97)).length = length + 2 := by
    have hbody : (List.replicate length (97 : BitVec 16)).flatMap JsonText.escape =
        List.replicate length 97 := by
      induction length with
      | zero => rfl
      | succ length ih =>
        rw [List.replicate_succ, List.flatMap_cons, ih, List.replicate_succ]
        rfl
    rw [quoted, hbody]
    simp
  have hid : (quoted (requestId 1)).length = 38 := by decide +kernel
  have hmethod : (quoted (word "handle_event")).length = 14 := by decide +kernel
  have hnames : (quoted (word "id")).length = 4 ∧ (quoted (word "method")).length = 8 ∧
      (quoted (word "params")).length = 8 ∧ (quoted (word "event")).length = 7 := by decide +kernel
  simp only [envelope, longParams, Value.write, writeFields, List.length_cons, List.length_append,
    List.length_nil, hquoted, hid, hmethod, hnames]
  omega

def fullRequest : Request where
  id := 1
  method := word "handle_event"
  params := longParams (maxProtocolLineBytes - 91)
  passes := by
    rw [length_longParams]
    decide

/-- A payload of the full length passes the check of the process, and the runner rejects it. -/
theorem full_request_rejected :
    fullRequest.payload.length = maxProtocolLineBytes ∧
      answer silentPlugin some fullRequest.line ⟨true, false, ()⟩ =
        (failure .null "request exceeds protocol limit", ⟨true, false, ()⟩) ∧
      ¬ List.Forall₂ (Answers some)
        (run silentPlugin some ⟨true, false, ()⟩ ([fullRequest].flatMap Request.line))
        [fullRequest] := by
  have hlength : fullRequest.payload.length = maxProtocolLineBytes := by
    have hlong := length_longParams (maxProtocolLineBytes - 91)
    rw [Request.payload, Request.fields]
    exact hlong
  exact ⟨hlength, answer_oversized hlength, oversized_unanswered hlength⟩

end Sample

end WechatBot.PluginFraming
