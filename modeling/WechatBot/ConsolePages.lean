import WechatBot.ConsoleListings
import WechatBot.Records

/-!
# The lists that the console loads without a check

`fetchAllPages` and `listAllMembers` read on until a page is short or the count is reached.
Rows that are added meanwhile may be shown twice, but no row that was there from the
beginning is left out.
-/
namespace WechatBot.ConsolePages

open PyData Records Paging ConsoleListings

variable {α κ ι : Type} [LinearOrder κ]

def PAGE_LIMIT : Nat := 200

/-- The loop from request number `n`; `fuel` bounds its turns, and without it there is no
result. -/
def fetchPages (server : Backend α) :
    Nat → Nat → List α → Except ApiError (Option (ListResponse α × Nat))
  | 0, _, _ => .ok none
  | fuel + 1, n, read => do
    let page ← server.request n PAGE_LIMIT read.length
    let items := read ++ page.items
    if page.items = [] ∨ page.items.length < PAGE_LIMIT ∨ page.total ≤ items.length then
      return some (⟨items, page.total⟩, n + 1)
    fetchPages server fuel (n + 1) items

def fetchAllPages (server : Backend α) (fuel n : Nat) :
    Except ApiError (Option (ListResponse α × Nat)) := fetchPages server fuel n []

/-- The same loop over the members of a chatroom. -/
def listAllMembers (server : Backend ChatroomMembership) (fuel n : Nat) :
    Except ApiError (Option (ListResponse ChatroomMembership × Nat)) :=
  fetchAllPages server fuel n

structure AccountRow where
  id : UUID
  createdAt : Time
  deriving DecidableEq, Repr

/-- `AccountService.list` without a filter. -/
def listAccounts : Listing AccountRow (Lex (Int × Nat)) where
  visible _ := true
  key row := toLex (row.createdAt, row.id.toNat)

def listContacts (collation : Str → κ) (botAccountId : UUID) :
    Listing Contact (Lex (κ × Nat)) where
  visible row := decide (row.botAccountId = botAccountId)
  key row := toLex (collation row.externalId, row.id.toNat)

def listChatrooms (collation : Str → κ) (botAccountId : UUID) :
    Listing Chatroom (Lex (κ × Nat)) where
  visible row := decide (row.botAccountId = botAccountId)
  key row := toLex (collation row.chatroomId, row.id.toNat)

def listMemberships (collation : Str → κ) (chatroomId : UUID) (includeLeft : Bool) :
    Listing ChatroomMembership (Lex (κ × Natᵒᵈ)) where
  visible row := decide (row.chatroomId = chatroomId) && (includeLeft || row.leftAt.isNone)
  key row := toLex (collation row.memberWxid, OrderDual.toDual row.membershipEpoch)

omit [LinearOrder κ] in
theorem key_id {a b : κ} {id id' : UUID} (h : toLex (a, id.toNat) = toLex (b, id'.toNat)) :
    id = id' :=
  BitVec.eq_of_toNat_eq (congrArg (fun k : Lex (κ × Nat) => (ofLex k).2) h)

theorem listAccounts_decides : listAccounts.Decides AccountRow.id := fun _ _ h => key_id h

omit [LinearOrder κ] in
theorem listContacts_decides (collation : Str → κ) (botAccountId : UUID) :
    (listContacts collation botAccountId).Decides Contact.id := fun _ _ h => key_id h

omit [LinearOrder κ] in
theorem listChatrooms_decides (collation : Str → κ) (botAccountId : UUID) :
    (listChatrooms collation botAccountId).Decides Chatroom.id := fun _ _ h => key_id h

variable {server : Backend α}

/-- The row was read, or is still ahead. -/
def Pending (rows read : List α) (a : α) : Prop := a ∈ read ∨ a ∈ rows.drop read.length

/-- The end of the loop leaves nothing ahead. -/
theorem nothing_ahead {rows items : List α} {total offset : Nat}
    (hitems : items = page rows PAGE_LIMIT offset) (htotal : rows.length ≤ total)
    (hend : items = [] ∨ items.length < PAGE_LIMIT ∨ total ≤ offset + items.length) :
    rows.drop (offset + PAGE_LIMIT) = [] := by
  have hshort : items.length < PAGE_LIMIT → rows.drop (offset + PAGE_LIMIT) = [] := by
    intro hlt
    rw [hitems] at hlt
    exact drop_of_short hlt
  rcases hend with hnil | hlt | hall
  · apply hshort
    rw [hnil]
    exact Nat.zero_lt_succ 199
  · exact hshort hlt
  · apply List.drop_eq_nil_of_le
    have hle : items.length ≤ PAGE_LIMIT := by
      rw [hitems, page, List.length_take]
      exact Nat.min_le_left _ _
    omega

theorem fetchPages_covers (hgrows : Growing server.rows) {fuel n next : Nat} {read : List α}
    {result : ListResponse α} {a : α} (ha : Pending (server.rows (2 * n)) read a)
    (h : fetchPages server fuel n read = .ok (some (result, next))) : a ∈ result.items := by
  induction fuel generalizing n read with
  | zero => cases h
  | succ fuel ih =>
    unfold fetchPages at h
    obtain ⟨response, hrequest, h⟩ := Results.bind_ok.mp h
    obtain ⟨hitems, htotal⟩ := request_ok hrequest
    dsimp only at h
    have hsplit := drop_eq_page (server.rows (2 * n)) PAGE_LIMIT read.length
    rw [← hitems] at hsplit
    have hnext : a ∈ read ++ response.items ∨
        a ∈ (server.rows (2 * n)).drop (read.length + PAGE_LIMIT) := by
      rcases ha with hread | hahead
      · exact .inl (List.mem_append_left _ hread)
      · rw [hsplit] at hahead
        rcases List.mem_append.mp hahead with hpage | hlater
        · exact .inl (List.mem_append_right _ hpage)
        · exact .inr hlater
    split at h
    · rename_i hend
      cases h
      have hcount : (server.rows (2 * n)).length ≤ response.total := by
        rw [htotal]
        exact (hgrows (2 * n)).length_le
      rw [List.length_append] at hend
      rw [nothing_ahead hitems hcount hend] at hnext
      simpa using hnext
    · rename_i hmore
      have hfull : response.items.length = PAGE_LIMIT := by
        have hle : response.items.length ≤ PAGE_LIMIT := by
          rw [hitems, page, List.length_take]
          exact Nat.min_le_left _ _
        omega
      apply ih _ h
      refine hnext.imp_right fun hlater => ?_
      rw [List.length_append, hfull]
      exact ((hgrows.sublist (by omega : 2 * n ≤ 2 * (n + 1))).drop _).subset hlater

theorem fetchPages_real (hgrows : Growing server.rows) {fuel n next : Nat} {read : List α}
    {result : ListResponse α} (hread : ∀ a ∈ read, a ∈ server.rows (2 * n))
    (h : fetchPages server fuel n read = .ok (some (result, next))) :
    n < next ∧ ∀ a ∈ result.items, a ∈ server.rows (2 * next) := by
  induction fuel generalizing n read with
  | zero => cases h
  | succ fuel ih =>
    unfold fetchPages at h
    obtain ⟨response, hrequest, h⟩ := Results.bind_ok.mp h
    obtain ⟨hitems, -⟩ := request_ok hrequest
    dsimp only at h
    have hkept : ∀ a ∈ read ++ response.items, a ∈ server.rows (2 * (n + 1)) := by
      intro a ha
      apply (hgrows.sublist (by omega : 2 * n ≤ 2 * (n + 1))).subset
      rcases List.mem_append.mp ha with ha | ha
      · exact hread a ha
      · rw [hitems] at ha
        exact mem_page ha
    split at h
    · cases h
      exact ⟨Nat.lt_succ_self n, hkept⟩
    · obtain ⟨hlt, hreal⟩ := ih hkept h
      exact ⟨by omega, hreal⟩

/-- Every row that the list shows when the loading begins is in the result, although others
add rows meanwhile, and every item of the result is a row of the list at the end. -/
theorem fetch_all_pages_covers {id : α → UUID} {tables : Nat → List α}
    (htables : InsertOnly id tables) {listing : Listing α κ} (hdecides : listing.Decides id)
    {answers : Nat → Bool} {fuel n next : Nat} {result : ListResponse α}
    (h : fetchAllPages (listing.backend tables answers) fuel n = .ok (some (result, next))) :
    (∀ row ∈ listing.rows (tables (2 * n)), row ∈ result.items) ∧
      ∀ row ∈ result.items, row ∈ listing.rows (tables (2 * next)) := by
  have hgrows : Growing (listing.backend tables answers).rows := listing_grows htables hdecides
  constructor
  · intro row hrow
    have hahead : Pending ((listing.backend tables answers).rows (2 * n)) [] row := .inr hrow
    exact fetchPages_covers hgrows hahead h
  · have hnone : ∀ row ∈ ([] : List α), row ∈ (listing.backend tables answers).rows (2 * n) :=
      fun row hrow => absurd hrow List.not_mem_nil
    exact (fetchPages_real hgrows hnone h).2

def sampleContact (n : Nat) : Contact := ⟨BitVec.ofNat 128 n, 1, [n], true⟩

/-- Before the second page is requested, a contact is discovered that comes first. -/
def contactsMeanwhile (n : Nat) : List Contact :=
  (if n < 2 then List.range' 1 201 else List.range' 0 202).map sampleContact

theorem contactsMeanwhile_insertOnly : InsertOnly Contact.id contactsMeanwhile := by
  have hmany : ∀ n, contactsMeanwhile (n + 2) = (List.range' 0 202).map sampleContact := fun n => rfl
  have hnodup : (((List.range' 0 202).map sampleContact).map Contact.id).Nodup := by
    rw [List.map_map]
    refine List.Nodup.map_on (fun a ha b hb hid => ?_) List.nodup_range'
    have hlt : a < 202 ∧ b < 202 := by
      rw [List.mem_range'_1] at ha hb
      omega
    have hnat := congrArg BitVec.toNat hid
    simp only [Function.comp, sampleContact, BitVec.toNat_ofNat] at hnat
    omega
  have hfewer : (List.range' 1 201).Sublist (List.range' 0 202) := List.sublist_cons_self 0 _
  have hfirst := hfewer.map sampleContact
  constructor
  · intro n
    match n with
    | 0 | 1 => exact (hfirst.map Contact.id).nodup hnodup
    | n + 2 =>
      rw [hmany n]
      exact hnodup
  · intro n
    match n with
    | 0 => exact List.Subset.refl _
    | 1 => exact hfirst.subset
    | n + 2 => exact List.Subset.refl _

def contactPages : Except ApiError (Option (ListResponse Contact × Nat)) :=
  fetchAllPages ((listContacts id 1).backend contactsMeanwhile fun _ => true) 3 0

/-- Two pages are loaded, and the last contact of the first page is in both. -/
theorem contactPages_loaded : (match contactPages with
    | .ok (some (result, next)) => decide (result.items.length = 202 ∧ next = 2)
    | _ => false) = true := by decide +kernel

theorem fetch_all_pages_covers_contacts :
    ∃ result, contactPages = .ok (some (result, 2)) ∧ result.items.length = 202 ∧
      (∀ row ∈ (listContacts id 1).rows (contactsMeanwhile (2 * 0)), row ∈ result.items) ∧
      ∀ row ∈ result.items, row ∈ (listContacts id 1).rows (contactsMeanwhile (2 * 2)) := by
  have hloaded := contactPages_loaded
  split at hloaded
  · rename_i result next hpages
    obtain ⟨hlength, rfl⟩ := of_decide_eq_true hloaded
    exact ⟨result, hpages, hlength,
      fetch_all_pages_covers contactsMeanwhile_insertOnly (listContacts_decides id 1) hpages⟩
  · cases hloaded

theorem fetchPages_quiet {whole : List α} {n fuel : Nat} (hquiet : Quiet server n whole)
    {read : List α} (hread : read = whole.take read.length)
    (hfuel : whole.length < read.length + PAGE_LIMIT * fuel) :
    ∃ next, fetchPages server fuel n read = .ok (some (⟨whole, whole.length⟩, next)) := by
  induction fuel generalizing n read with
  | zero =>
    have hle : read.length ≤ whole.length := by
      rw [hread, List.length_take]
      exact Nat.min_le_right _ _
    omega
  | succ fuel ih =>
    have hitems : read ++ page whole PAGE_LIMIT read.length =
        whole.take (read.length + PAGE_LIMIT) := by
      nth_rewrite 1 [hread]
      rw [take_page]
    have hlength := length_page whole PAGE_LIMIT read.length
    rw [Nat.mul_succ] at hfuel
    unfold fetchPages
    rw [quiet_request hquiet]
    dsimp only [bind, Except.bind]
    split
    · rename_i hend
      rw [List.length_append] at hend
      have hahead := nothing_ahead rfl (le_refl whole.length) hend
      refine ⟨n + 1, ?_⟩
      rw [hitems, List.take_of_length_le (List.drop_eq_nil_iff.mp hahead)]
      rfl
    · rename_i hmore
      have hfull : (page whole PAGE_LIMIT read.length).length = PAGE_LIMIT := by
        rw [hlength] at hmore ⊢
        omega
      apply ih (hquiet.later (Nat.le_succ n))
      · rw [List.length_append, hfull, hitems]
      · rw [List.length_append, hfull]
        omega

theorem length_rows (listing : Listing α κ) (rows : List α) :
    (listing.rows rows).length ≤ rows.length := by
  rw [Listing.rows, (ordered_perm _ _).length_eq]
  exact List.length_filter_le _ _

/-- While no row changes, the members of a chatroom are loaded once each and in the order of
the back end, however many there are. -/
theorem list_members_at_rest (collation : Str → κ) (chatroomId : UUID) (includeLeft : Bool)
    {tables : Nat → List ChatroomMembership} {rows : List ChatroomMembership} {n fuel : Nat}
    (hrest : ∀ k, 2 * n ≤ k → tables k = rows) (hfuel : rows.length < PAGE_LIMIT * fuel) :
    ∃ next, listAllMembers ((listMemberships collation chatroomId includeLeft).backend tables
        fun _ => true) fuel n =
      .ok (some (⟨(listMemberships collation chatroomId includeLeft).rows rows,
        ((listMemberships collation chatroomId includeLeft).rows rows).length⟩, next)) := by
  apply fetchPages_quiet
  · refine ⟨fun k hk => ?_, fun _ => rfl⟩
    show Listing.rows _ (tables k) = _
    rw [hrest k hk]
  · rfl
  · have hle := length_rows (listMemberships collation chatroomId includeLeft) rows
    rw [List.length_nil, Nat.zero_add]
    exact hle.trans_lt hfuel

end WechatBot.ConsolePages
