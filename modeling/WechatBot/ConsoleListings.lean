import Mathlib.Data.Prod.Lex
import WechatBot.Paging
import WechatBot.PyData
import WechatBot.Results

/-!
# The lists of the console

The console loads a list page by page while other transactions add rows. A list request of
the back end is two statements, the page and the count, each of which sees the rows
committed when it begins; the rows here carry the columns that select and order them.
-/
namespace WechatBot.ConsoleListings

open PyData Paging

/-- The rows that each statement of the back end sees, and the requests that it answers. -/
structure Backend (α : Type) where
  rows : Nat → List α
  answers : Nat → Bool

structure ListResponse (α : Type) where
  items : List α
  total : Nat
  deriving DecidableEq, Repr

inductive ApiError where
  | requestFailed
  | FRONTEND_LIST_LIMIT
  | FRONTEND_UNSTABLE_PAGINATION
  deriving DecidableEq, Repr

variable {α ι : Type}

/-- Request number `n`: its two statements are the numbers `2 * n` and `2 * n + 1`. -/
def Backend.request (server : Backend α) (n limit offset : Nat) :
    Except ApiError (ListResponse α) :=
  if server.answers n then
    .ok ⟨page (server.rows (2 * n)) limit offset, (server.rows (2 * n + 1)).length⟩
  else .error .requestFailed

/-- What a list endpoint selects and in which order. -/
structure Listing (α κ : Type) where
  visible : α → Bool
  key : α → κ

variable {κ : Type} [LinearOrder κ]

def Listing.rows (listing : Listing α κ) (rows : List α) : List α :=
  ordered listing.key (rows.filter listing.visible)

/-- The back end over a table whose content each statement sees. -/
def Listing.backend (listing : Listing α κ) (tables : Nat → List α) (answers : Nat → Bool) :
    Backend α := ⟨fun n => listing.rows (tables n), answers⟩

structure AgentDefinition where
  id : UUID
  workspaceId : UUID
  createdAt : Time
  deriving DecidableEq, Repr

structure AgentVersion where
  id : UUID
  definitionId : UUID
  versionNumber : Nat
  deriving DecidableEq, Repr

structure AgentSession where
  id : UUID
  workspaceId : UUID
  createdAt : Time
  deriving DecidableEq, Repr

structure AgentRun where
  id : UUID
  sessionId : UUID
  createdAt : Time
  deriving DecidableEq, Repr

/-- `order_by(created_at.desc(), id.desc())`. -/
abbrev Newest := Lex (Intᵒᵈ × Natᵒᵈ)

def newest (createdAt : Time) (id : UUID) : Newest :=
  toLex (OrderDual.toDual createdAt, OrderDual.toDual id.toNat)

def listDefinitions (workspaceId : UUID) : Listing AgentDefinition Newest where
  visible row := decide (row.workspaceId = workspaceId)
  key row := newest row.createdAt row.id

def listVersions (definitionId : UUID) : Listing AgentVersion Newest where
  visible row := decide (row.definitionId = definitionId)
  key row := newest row.versionNumber row.id

def listSessions (workspaceId : UUID) : Listing AgentSession Newest where
  visible row := decide (row.workspaceId = workspaceId)
  key row := newest row.createdAt row.id

def listRuns (sessionId : UUID) : Listing AgentRun Newest where
  visible row := decide (row.sessionId = sessionId)
  key row := newest row.createdAt row.id

/-- The order of a listing decides by the id at last. -/
theorem newest_id {a b : Time} {id id' : UUID} (h : newest a id = newest b id') : id = id' := by
  have hpair := congrArg (fun k : Newest => OrderDual.ofDual (ofLex k).2) h
  exact BitVec.eq_of_toNat_eq hpair

def AGENT_PAGE_SIZE : Nat := 200
def MAX_AGENT_PAGES : Nat := 1000

structure Progress (α ι : Type) where
  items : List α
  seenIds : List ι
  offset : Nat
  expectedTotal : Option Nat
  firstId : Option ι

def Progress.start : Progress α ι := ⟨[], [], 0, none, none⟩

inductive Loaded (α : Type) where
  | complete (items : List α) (total : Nat)
  | unstable
  | tooLong
  deriving DecidableEq, Repr

/-- The loop over the pages of one attempt, from request number `n`. The second value is the
number of the next request. -/
def loadPages [DecidableEq ι] (id : α → ι) (server : Backend α) :
    Nat → Nat → Progress α ι → Except ApiError (Loaded α × Nat)
  | 0, n, _ => .ok (.tooLong, n)
  | pages + 1, n, progress => do
    let page ← server.request n AGENT_PAGE_SIZE progress.offset
    let expectedTotal := progress.expectedTotal.getD page.total
    let firstId := progress.firstId <|> page.items.head?.map id
    if page.total ≠ expectedTotal ∨ ∃ item ∈ page.items, id item ∈ progress.seenIds then
      return (.unstable, n + 1)
    let items := progress.items ++ page.items
    let offset := progress.offset + page.items.length
    if expectedTotal ≤ offset then
      let verification ← server.request (n + 1) 1 0
      if verification.total = expectedTotal ∧ verification.items.head?.map id = firstId then
        return (.complete items expectedTotal, n + 2)
      return (.unstable, n + 2)
    if page.items = [] then return (.unstable, n + 1)
    loadPages id server pages (n + 1)
      ⟨items, progress.seenIds ++ page.items.map id, offset, some expectedTotal, firstId⟩

def attempts [DecidableEq ι] (id : α → ι) (server : Backend α) :
    Nat → Nat → Except ApiError (ListResponse α × Nat)
  | 0, _ => .error .FRONTEND_UNSTABLE_PAGINATION
  | left + 1, n => do
    match ← loadPages id server MAX_AGENT_PAGES n .start with
    | (.complete items total, next) => return (⟨items, total⟩, next)
    | (.tooLong, _) => throw .FRONTEND_LIST_LIMIT
    | (.unstable, next) => attempts id server left next

/-- `listAll`, from request number `n`. -/
def listAll [DecidableEq ι] (id : α → ι) (server : Backend α) (n : Nat) :
    Except ApiError (ListResponse α × Nat) := attempts id server 2 n

/-- A request answers with one page, and with a total of a later moment. -/
theorem request_ok {server : Backend α} {n limit offset : Nat} {response : ListResponse α}
    (h : server.request n limit offset = .ok response) :
    response.items = page (server.rows (2 * n)) limit offset ∧
      response.total = (server.rows (2 * n + 1)).length := by
  unfold Backend.request at h
  split at h
  · cases h
    exact ⟨rfl, rfl⟩
  · cases h

/-- The items are a part of the list that was read before, and what follows its length. -/
structure Gathered (id : α → ι) (whole : List α) (progress : Progress α ι) : Prop where
  parts : ∃ front rest, progress.items = front ++ rest ∧ front.Sublist whole ∧
    rest <+: whole.drop front.length
  offset : progress.offset = progress.items.length
  seen : progress.seenIds = progress.items.map id
  apart : (progress.items.map id).Nodup

/-- The progress after one more page. -/
def Progress.add (progress : Progress α ι) (id : α → ι) (items : List α) (total : Nat)
    (firstId : Option ι) : Progress α ι :=
  ⟨progress.items ++ items, progress.seenIds ++ items.map id, progress.offset + items.length,
    some total, firstId⟩

variable {id : α → ι} {whole : List α} {progress : Progress α ι} {total : Nat} {firstId : Option ι}

/-- A page at the next offset continues what was gathered. -/
theorem gathered_add {items : List α} (h : Gathered id whole progress)
    (hwhole : (whole.map id).Nodup)
    (hitems : items = page whole AGENT_PAGE_SIZE progress.offset)
    (hfresh : ∀ item ∈ items, id item ∉ progress.seenIds) :
    Gathered id whole (progress.add id items total firstId) := by
  obtain ⟨front, rest, hparts, hfront, hrest⟩ := h.parts
  refine ⟨⟨front, rest ++ items, ?_, hfront, ?_⟩, ?_, ?_, ?_⟩
  · simp [Progress.add, hparts]
  · obtain ⟨tail, htail⟩ := hrest
    have hnext : whole.drop progress.offset = tail := by
      rw [h.offset, hparts, List.length_append, ← List.drop_drop, ← htail, List.drop_left]
    rw [← htail, hitems, page, hnext]
    exact (List.prefix_append_right_inj rest).mpr (List.take_prefix _ _)
  · simp [Progress.add, h.offset]
  · simp [Progress.add, h.seen]
  · have hsub : (items.map id).Nodup := by
      rw [hitems]
      exact hwhole.sublist (((List.take_sublist _ _).trans (List.drop_sublist _ _)).map id)
    simp only [Progress.add, List.map_append]
    apply List.Nodup.append h.apart hsub
    intro a hleft hright
    obtain ⟨item, hitem, rfl⟩ := List.mem_map.mp hright
    exact hfresh item hitem (h.seen ▸ hleft)

theorem gathered_first {items : List α} (hsub : items.Sublist whole)
    (hwhole : (whole.map id).Nodup) :
    Gathered id whole ((Progress.start : Progress α ι).add id items total firstId) := by
  refine ⟨⟨items, [], ?_, hsub, List.nil_prefix⟩, ?_, ?_, ?_⟩
  · simp [Progress.add, Progress.start]
  · simp [Progress.add, Progress.start]
  · simp [Progress.add, Progress.start]
  · simp only [Progress.add, Progress.start, List.nil_append]
    exact hwhole.sublist (hsub.map id)

/-- As many items as there are rows are the rows. -/
theorem gathered_whole (h : Gathered id whole progress) (hall : whole.length ≤ progress.offset) :
    progress.items = whole := by
  obtain ⟨front, rest, hparts, hfront, hrest⟩ := h.parts
  have hlength := h.offset
  rw [hparts, List.length_append] at hlength
  have hrestLength := hrest.length_le
  rw [List.length_drop] at hrestLength
  have hrest : rest = whole.drop front.length := by
    apply hrest.eq_of_length
    rw [List.length_drop]
    have hle := hfront.length_le
    omega
  have hapart := h.apart
  rw [hparts, List.map_append, List.nodup_append] at hapart
  have hfront : front = whole.take front.length := by
    apply eq_take_of_apart hfront
    intro a ha hafter
    have hrestId := List.mem_map_of_mem (f := id) (hrest ▸ hafter)
    exact hapart.2.2 _ (List.mem_map_of_mem ha) _ hrestId rfl
  rw [hparts, hrest]
  nth_rewrite 1 [hfront]
  exact List.take_append_drop _ _

variable [DecidableEq ι]

/-- How a loop that completes has gone on from one page. -/
theorem loadPages_complete {server : Backend α} {pages n next : Nat} {items : List α}
    (h : loadPages id server (pages + 1) n progress = .ok (.complete items total, next)) :
    ∃ response firstId, server.request n AGENT_PAGE_SIZE progress.offset = .ok response ∧
      response.total = progress.expectedTotal.getD response.total ∧
      (∀ item ∈ response.items, id item ∉ progress.seenIds) ∧
      let after := progress.add id response.items response.total firstId
      (response.total ≤ after.offset ∧ items = after.items ∧ total = response.total ∧
          next = n + 2 ∧ ∃ verification, server.request (n + 1) 1 0 = .ok verification ∧
            verification.total = response.total) ∨
        loadPages id server pages (n + 1) after = .ok (.complete items total, next) := by
  unfold loadPages at h
  obtain ⟨response, hrequest, h⟩ := Results.bind_ok.mp h
  dsimp only at h
  split at h
  · cases h
  rename_i hstable
  rw [not_or, not_not] at hstable
  obtain ⟨htotal, hfresh⟩ := hstable
  refine ⟨response, progress.firstId <|> response.items.head?.map id, hrequest, htotal, ?_, ?_⟩
  · intro item hitem hseen
    exact hfresh ⟨item, hitem, hseen⟩
  rw [← htotal] at h
  split at h
  · rename_i hall
    obtain ⟨verification, hverification, h⟩ := Results.bind_ok.mp h
    split at h
    · rename_i hsame
      cases h
      exact .inl ⟨hall, rfl, rfl, rfl, verification, hverification, hsame.1⟩
    · cases h
  · split at h
    · cases h
    · exact .inr h


variable {server : Backend α}

/-- Once the count is known, the pages that complete the list are pages of one moment. -/
theorem loadPages_gathered (hgrows : Growing server.rows)
    (hids : ∀ k, ((server.rows k).map id).Nodup) {moment pages n next : Nat} {items : List α}
    (hmoment : moment ≤ 2 * n) (hprogress : Gathered id (server.rows moment) progress)
    (hexpected : progress.expectedTotal = some (server.rows moment).length)
    (h : loadPages id server pages n progress = .ok (.complete items total, next)) :
    items = server.rows moment ∧ total = (server.rows moment).length ∧ n < next := by
  induction pages generalizing n progress with
  | zero => cases h
  | succ pages ih =>
    obtain ⟨response, firstId, hrequest, htotal, hfresh, hnext⟩ := loadPages_complete h
    obtain ⟨hitems, hcount⟩ := request_ok hrequest
    rw [hexpected, Option.getD_some] at htotal
    have hstill : server.rows (2 * n) = server.rows moment := by
      apply hgrows.still hmoment (Nat.le_succ (2 * n))
      rw [← hcount, htotal]
    rw [hstill] at hitems
    have hafter : Gathered id (server.rows moment)
        (progress.add id response.items response.total firstId) :=
      gathered_add hprogress (hids moment) hitems hfresh
    rcases hnext with ⟨hall, rfl, rfl, rfl, -⟩ | hrest
    · rw [htotal] at hall
      exact ⟨gathered_whole hafter hall, htotal, by omega⟩
    · obtain ⟨hwhole, hlength, hlt⟩ := ih (n := n + 1) (by omega) hafter (by rw [← htotal]; rfl) hrest
      exact ⟨hwhole, hlength, by omega⟩

/-- The first page may be older than its count; then a row that it misses is found later. -/
theorem loadPages_snapshot (hgrows : Growing server.rows)
    (hids : ∀ k, ((server.rows k).map id).Nodup) {pages n next : Nat} {items : List α}
    (h : loadPages id server pages n .start = .ok (.complete items total, next)) :
    items = server.rows (2 * n + 1) ∧ total = items.length ∧ n < next := by
  cases pages with
  | zero => cases h
  | succ pages =>
    obtain ⟨response, firstId, hrequest, -, -, hnext⟩ := loadPages_complete h
    obtain ⟨hitems, hcount⟩ := request_ok hrequest
    have hsub : response.items.Sublist (server.rows (2 * n + 1)) := by
      rw [hitems]
      exact ((List.take_sublist _ _).trans (List.drop_sublist _ _)).trans (hgrows (2 * n))
    have hafter : Gathered id (server.rows (2 * n + 1))
        ((Progress.start : Progress α ι).add id response.items response.total firstId) :=
      gathered_first hsub (hids _)
    rcases hnext with ⟨hall, rfl, rfl, rfl, -⟩ | hrest
    · rw [hcount] at hall
      have hwhole := gathered_whole hafter hall
      exact ⟨hwhole, hcount.trans (congrArg List.length hwhole).symm, by omega⟩
    · obtain ⟨hwhole, hlength, hlt⟩ := loadPages_gathered (n := n + 1) hgrows hids (by omega) hafter
        (by rw [← hcount]; rfl) hrest
      exact ⟨hwhole, by rw [hlength, hwhole], by omega⟩

/-- The number of requests only grows. -/
theorem loadPages_next {pages n next : Nat} {loaded : Loaded α}
    (h : loadPages id server pages n progress = .ok (loaded, next)) : n ≤ next := by
  induction pages generalizing n progress with
  | zero =>
    cases h
    exact le_refl _
  | succ pages ih =>
    unfold loadPages at h
    obtain ⟨response, -, h⟩ := Results.bind_ok.mp h
    dsimp only at h
    split at h
    · cases h
      exact Nat.le_succ _
    split at h
    · obtain ⟨verification, -, h⟩ := Results.bind_ok.mp h
      split at h
      · cases h
        omega
      · cases h
        omega
    · split at h
      · cases h
        exact Nat.le_succ _
      · have hrest := ih h
        omega

/-- What an attempt answers is the listing of one moment of its requests. -/
theorem attempts_snapshot (hgrows : Growing server.rows)
    (hids : ∀ k, ((server.rows k).map id).Nodup) {left n next : Nat} {result : ListResponse α}
    (h : attempts id server left n = .ok (result, next)) :
    ∃ moment, 2 * n ≤ moment ∧ moment < 2 * next ∧ result.items = server.rows moment ∧
      result.total = result.items.length := by
  induction left generalizing n with
  | zero => cases h
  | succ left ih =>
    unfold attempts at h
    obtain ⟨⟨loaded, middle⟩, hloaded, h⟩ := Results.bind_ok.mp h
    split at h
    · rename_i items total next' heq
      cases heq
      cases h
      obtain ⟨hitems, htotal, hlt⟩ := loadPages_snapshot hgrows hids hloaded
      exact ⟨2 * n + 1, by omega, by omega, hitems, htotal⟩
    · cases h
    · rename_i next' heq
      cases heq
      have hle := loadPages_next hloaded
      obtain ⟨moment, hfirst, hlast, hrest⟩ := ih h
      exact ⟨moment, by omega, hlast, hrest⟩

/-- The content of a table at each statement: rows are added and none is deleted. -/
structure InsertOnly (id : α → UUID) (tables : Nat → List α) : Prop where
  ids : ∀ n, ((tables n).map id).Nodup
  kept : ∀ n, tables n ⊆ tables (n + 1)

/-- Rows that the order of the listing cannot tell apart are the same row. -/
def Listing.Decides (listing : Listing α κ) (id : α → UUID) : Prop :=
  ∀ a b, listing.key a = listing.key b → id a = id b

theorem eq_of_id {id : α → UUID} {rows : List α} (hids : (rows.map id).Nodup) {a b : α}
    (ha : a ∈ rows) (hb : b ∈ rows) (h : id a = id b) : a = b :=
  List.inj_on_of_nodup_map hids ha hb h

/-- A listing shows no row twice. -/
theorem listing_ids {id : α → UUID} {tables : Nat → List α} (htables : InsertOnly id tables)
    (listing : Listing α κ) (n : Nat) : ((listing.rows (tables n)).map id).Nodup := by
  have hperm := (ordered_perm listing.key ((tables n).filter listing.visible)).map id
  rw [Listing.rows, hperm.nodup_iff]
  exact (htables.ids n).sublist (List.filter_sublist.map id)

/-- A table that only grows has listings that only grow. -/
theorem listing_grows {id : α → UUID} {tables : Nat → List α} (htables : InsertOnly id tables)
    {listing : Listing α κ} (hdecides : listing.Decides id) :
    Growing fun n => listing.rows (tables n) := by
  intro n
  apply ordered_grows
  · exact ((htables.ids n).of_map id).filter _
  · intro a ha
    obtain ⟨hmem, hvisible⟩ := List.mem_filter.mp ha
    exact List.mem_filter.mpr ⟨htables.kept n hmem, hvisible⟩
  · intro a ha b hb hkey
    exact eq_of_id (htables.ids (n + 1)) (List.mem_of_mem_filter ha) (List.mem_of_mem_filter hb)
      (hdecides a b hkey)

/-- What the console shows of a table to which rows are added meanwhile is the list as it
was at one moment of the loading, in the order of the back end. -/
theorem list_all_is_snapshot {id : α → UUID} {tables : Nat → List α}
    (htables : InsertOnly id tables) {listing : Listing α κ} (hdecides : listing.Decides id)
    {answers : Nat → Bool} {n next : Nat} {result : ListResponse α}
    (h : listAll id (listing.backend tables answers) n = .ok (result, next)) :
    ∃ moment, 2 * n ≤ moment ∧ moment < 2 * next ∧
      result.items = listing.rows (tables moment) ∧ result.total = result.items.length := by
  have hgrows : Growing (listing.backend tables answers).rows := listing_grows htables hdecides
  exact attempts_snapshot hgrows (listing_ids htables listing) h

theorem listRuns_decides (sessionId : UUID) : (listRuns sessionId).Decides AgentRun.id :=
  fun _ _ h => newest_id h

theorem listSessions_decides (workspaceId : UUID) :
    (listSessions workspaceId).Decides AgentSession.id :=
  fun _ _ h => newest_id h

theorem listVersions_decides (definitionId : UUID) :
    (listVersions definitionId).Decides AgentVersion.id :=
  fun _ _ h => newest_id h

theorem listDefinitions_decides (workspaceId : UUID) :
    (listDefinitions workspaceId).Decides AgentDefinition.id :=
  fun _ _ h => newest_id h

/-- A run that is added between the page and the count of the first request. -/
def runsMeanwhile (n : Nat) : List AgentRun :=
  if n = 0 then [⟨1, 1, 0⟩] else [⟨1, 1, 0⟩, ⟨2, 1, second⟩]

theorem runsMeanwhile_insertOnly : InsertOnly AgentRun.id runsMeanwhile := by
  have hmany : ∀ n, runsMeanwhile (n + 1) = [⟨1, 1, 0⟩, ⟨2, 1, second⟩] := fun n => rfl
  constructor
  · intro n
    cases n with
    | zero => decide
    | succ n =>
      rw [hmany n]
      decide
  · intro n
    rw [hmany n]
    cases n with
    | zero =>
      intro run hrun
      rw [List.mem_singleton.mp hrun]
      exact List.mem_cons_self
    | succ n =>
      rw [hmany n]
      exact List.Subset.refl _

/-- The first attempt sees the older run twice. -/
theorem runsMeanwhile_loaded : listAll AgentRun.id
    ((listRuns 1).backend runsMeanwhile fun _ => true) 0 =
      .ok (⟨[⟨2, 1, second⟩, ⟨1, 1, 0⟩], 2⟩, 4) := by decide +kernel

theorem list_all_is_snapshot_retried :
    ∃ moment, 2 * 0 ≤ moment ∧ moment < 2 * 4 ∧
      [⟨2, 1, second⟩, ⟨1, 1, 0⟩] = (listRuns 1).rows (runsMeanwhile moment) ∧
        2 = [(⟨2, 1, second⟩ : AgentRun), ⟨1, 1, 0⟩].length :=
  list_all_is_snapshot runsMeanwhile_insertOnly (listRuns_decides 1) runsMeanwhile_loaded

/-- The back end answers every request from number `n` on, always from the same rows. -/
structure Quiet (server : Backend α) (n : Nat) (whole : List α) : Prop where
  rows : ∀ k, 2 * n ≤ k → server.rows k = whole
  answers : ∀ k, server.answers k = true

theorem Quiet.later {n m : Nat} (h : Quiet server n whole) (hnm : n ≤ m) : Quiet server m whole :=
  ⟨fun k hk => h.rows k (by omega), h.answers⟩

/-- From a quiet listing a request reads its page and its total. -/
theorem quiet_request {n : Nat} (h : Quiet server n whole) (limit offset : Nat) :
    server.request n limit offset = .ok ⟨page whole limit offset, whole.length⟩ := by
  rw [Backend.request, if_pos (h.answers n), h.rows _ (le_refl _), h.rows _ (Nat.le_succ _)]

/-- The first rows were read and nothing has changed. -/
structure ReadSoFar (id : α → ι) (whole : List α) (progress : Progress α ι) : Prop where
  items : progress.items = whole.take progress.offset
  bound : progress.offset ≤ whole.length
  seen : progress.seenIds = progress.items.map id
  expected : progress.expectedTotal.getD whole.length = whole.length
  first : progress.firstId = none ∧ progress.offset = 0 ∨
    progress.firstId = whole.head?.map id

omit [DecidableEq ι] in
theorem readSoFar_start (id : α → ι) (whole : List α) :
    ReadSoFar id whole (.start : Progress α ι) :=
  ⟨rfl, Nat.zero_le _, rfl, rfl, .inl ⟨rfl, rfl⟩⟩

omit [DecidableEq ι] in
theorem readSoFar_first (h : ReadSoFar id whole progress) :
    (progress.firstId <|> (page whole AGENT_PAGE_SIZE progress.offset).head?.map id) =
      whole.head?.map id := by
  rcases h.first with ⟨hfirst, hoffset⟩ | hfirst
  · rw [hfirst, hoffset]
    cases whole <;> rfl
  · rw [hfirst]
    cases whole with
    | nil => simp [page]
    | cons a rest => rfl

omit [DecidableEq ι] in
/-- At rest no page repeats a row. -/
theorem readSoFar_fresh (h : ReadSoFar id whole progress) (hids : (whole.map id).Nodup) :
    ¬ ∃ item ∈ page whole AGENT_PAGE_SIZE progress.offset, id item ∈ progress.seenIds := by
  rintro ⟨item, hitem, hseen⟩
  rw [h.seen, h.items] at hseen
  have hsplit : (whole.take progress.offset).map id ++ (whole.drop progress.offset).map id =
      whole.map id := by
    rw [← List.map_append, List.take_append_drop]
  rw [← hsplit, List.nodup_append] at hids
  exact hids.2.2 _ hseen _ (List.mem_map_of_mem (List.mem_of_mem_take hitem)) rfl

/-- A page continues the rows before it. -/
theorem take_page (whole : List α) (limit offset : Nat) :
    whole.take offset ++ page whole limit offset = whole.take (offset + limit) := by
  rw [page, List.take_add]

/-- A page is full unless the rows run out. -/
theorem length_page (whole : List α) (limit offset : Nat) :
    (page whole limit offset).length = min limit (whole.length - offset) := by
  rw [page, List.length_take, List.length_drop]

omit [DecidableEq ι] in
/-- At rest no page is a sign of a change. -/
theorem readSoFar_stable (h : ReadSoFar id whole progress) (hids : (whole.map id).Nodup) :
    ¬ (whole.length ≠ progress.expectedTotal.getD whole.length ∨
      ∃ item ∈ page whole AGENT_PAGE_SIZE progress.offset, id item ∈ progress.seenIds) := by
  rintro (hne | hseen)
  · exact hne h.expected.symm
  · exact readSoFar_fresh h hids hseen

/-- A page that reaches the end completes the listing. -/
theorem loadPages_last {n : Nat} (hquiet : Quiet server n whole) (hids : (whole.map id).Nodup)
    (h : ReadSoFar id whole progress) (hlast : whole.length ≤ progress.offset + AGENT_PAGE_SIZE)
    (pages : Nat) :
    loadPages id server (pages + 1) n progress = .ok (.complete whole whole.length, n + 2) := by
  have hhead : (page whole 1 0).head?.map id = whole.head?.map id := by
    cases whole <;> rfl
  have hall : whole.length ≤
      progress.offset + (page whole AGENT_PAGE_SIZE progress.offset).length := by
    rw [length_page]
    omega
  unfold loadPages
  rw [quiet_request hquiet]
  dsimp only [bind, Except.bind]
  rw [if_neg (readSoFar_stable h hids), h.expected, readSoFar_first h, h.items, take_page,
    if_pos hall, quiet_request (hquiet.later (Nat.le_succ n)), List.take_of_length_le hlast]
  dsimp only
  rw [if_pos ⟨rfl, hhead⟩]
  rfl

/-- The progress after a full page. -/
def Progress.full (progress : Progress α ι) (id : α → ι) (whole : List α) : Progress α ι :=
  progress.add id (page whole AGENT_PAGE_SIZE progress.offset) whole.length (whole.head?.map id)

omit [DecidableEq ι] in
theorem full_offset (id : α → ι) (hmore : progress.offset + AGENT_PAGE_SIZE < whole.length) :
    (progress.full id whole).offset = progress.offset + AGENT_PAGE_SIZE := by
  show progress.offset + (page whole AGENT_PAGE_SIZE progress.offset).length = _
  rw [length_page]
  omega

omit [DecidableEq ι] in
/-- A full page leaves everything before its end read. -/
theorem readSoFar_full (h : ReadSoFar id whole progress)
    (hmore : progress.offset + AGENT_PAGE_SIZE < whole.length) :
    ReadSoFar id whole (progress.full id whole) := by
  have hoffset := full_offset id hmore
  refine ⟨?_, by rw [hoffset]; exact hmore.le, ?_, rfl, .inr rfl⟩
  · rw [hoffset, ← take_page, ← h.items]
    rfl
  · show progress.seenIds ++ (page whole AGENT_PAGE_SIZE progress.offset).map id =
      (progress.items ++ page whole AGENT_PAGE_SIZE progress.offset).map id
    rw [List.map_append, h.seen]

/-- A full page leads to the next one. -/
theorem loadPages_more {n : Nat} (hquiet : Quiet server n whole) (hids : (whole.map id).Nodup)
    (h : ReadSoFar id whole progress) (hmore : progress.offset + AGENT_PAGE_SIZE < whole.length)
    (pages : Nat) : loadPages id server (pages + 1) n progress =
      loadPages id server pages (n + 1) (progress.full id whole) := by
  have hnot : ¬ whole.length ≤
      progress.offset + (page whole AGENT_PAGE_SIZE progress.offset).length := by
    rw [length_page]
    omega
  have hsome : page whole AGENT_PAGE_SIZE progress.offset ≠ [] := by
    rw [AGENT_PAGE_SIZE] at hmore
    rw [← List.length_pos_iff_ne_nil, length_page, AGENT_PAGE_SIZE]
    omega
  conv_lhs => unfold loadPages
  rw [quiet_request hquiet]
  dsimp only [bind, Except.bind]
  rw [if_neg (readSoFar_stable h hids), h.expected, readSoFar_first h, if_neg hnot, if_neg hsome]
  rfl

/-- Enough pages read everything, and too few say so. -/
theorem loadPages_quiet {n pages : Nat} (hquiet : Quiet server n whole)
    (hids : (whole.map id).Nodup) (h : ReadSoFar id whole progress)
    (hpages : whole.length = progress.offset → 0 < pages) :
    (whole.length ≤ progress.offset + AGENT_PAGE_SIZE * pages →
      ∃ next, loadPages id server pages n progress = .ok (.complete whole whole.length, next)) ∧
    (progress.offset + AGENT_PAGE_SIZE * pages < whole.length →
      ∃ next, loadPages id server pages n progress = .ok (.tooLong, next)) := by
  induction pages generalizing n progress with
  | zero =>
    have hbound := h.bound
    constructor
    · intro hle
      exact absurd (hpages (by omega)) (Nat.lt_irrefl 0)
    · intro _
      exact ⟨n, rfl⟩
  | succ pages ih =>
    rw [Nat.mul_succ]
    by_cases hlast : whole.length ≤ progress.offset + AGENT_PAGE_SIZE
    · constructor
      · intro _
        exact ⟨n + 2, loadPages_last hquiet hids h hlast pages⟩
      · intro hlt
        omega
    · have hmore : progress.offset + AGENT_PAGE_SIZE < whole.length := by omega
      have hoffset := full_offset id hmore
      have hrest := ih (hquiet.later (Nat.le_succ n)) (readSoFar_full h hmore)
        (fun hend => by rw [hoffset] at hend; omega)
      rw [loadPages_more hquiet hids h hmore pages]
      rw [hoffset] at hrest
      exact ⟨fun hle => hrest.1 (by omega), fun hlt => hrest.2 (by omega)⟩

/-- While nobody adds a row the console shows the whole list, unless it has more than
200 000 rows: then it refuses to load it. -/
theorem list_all_at_rest {id : α → UUID} {tables : Nat → List α} {rows : List α} {n : Nat}
    (listing : Listing α κ) (hrest : ∀ k, 2 * n ≤ k → tables k = rows) (hids : (rows.map id).Nodup) :
    ((listing.rows rows).length ≤ 200000 → ∃ next,
      listAll id (listing.backend tables fun _ => true) n =
        .ok (⟨listing.rows rows, (listing.rows rows).length⟩, next)) ∧
    (200000 < (listing.rows rows).length →
      listAll id (listing.backend tables fun _ => true) n = .error .FRONTEND_LIST_LIMIT) := by
  have hquiet : Quiet (listing.backend tables fun _ => true) n (listing.rows rows) := by
    refine ⟨fun k hk => ?_, fun _ => rfl⟩
    show listing.rows (tables k) = listing.rows rows
    rw [hrest k hk]
  have hstill : InsertOnly id fun _ : Nat => rows :=
    ⟨fun _ => hids, fun _ => List.Subset.refl _⟩
  have hsome : (listing.rows rows).length = (Progress.start : Progress α UUID).offset →
      0 < MAX_AGENT_PAGES := fun _ => by decide
  obtain ⟨henough, hfew⟩ := loadPages_quiet hquiet (listing_ids hstill listing 0)
    (readSoFar_start id (listing.rows rows)) hsome
  constructor
  · intro hle
    obtain ⟨next, hloaded⟩ := henough (by simpa [Progress.start, AGENT_PAGE_SIZE, MAX_AGENT_PAGES])
    refine ⟨next, ?_⟩
    rw [listAll, attempts, hloaded]
    rfl
  · intro hlt
    obtain ⟨next, hloaded⟩ := hfew (by simpa [Progress.start, AGENT_PAGE_SIZE, MAX_AGENT_PAGES])
    rw [listAll, attempts, hloaded]
    rfl

theorem list_all_at_rest_two : ∃ next,
    listAll AgentRun.id ((listRuns 1).backend (fun _ => runsMeanwhile 1) fun _ => true) 0 =
      .ok (⟨(listRuns 1).rows (runsMeanwhile 1), ((listRuns 1).rows (runsMeanwhile 1)).length⟩,
        next) :=
  (list_all_at_rest (listRuns 1) (fun _ _ => rfl) (by decide)).1 (by decide +kernel)

end WechatBot.ConsoleListings
