import WechatBot.Records

/-!
# Scopes and commands of plugins

Which events a stored scope matches, when two scopes may match the same event, and
which command a message names. `casefold` is Python's `str.casefold`; nothing here
depends on more than its being a function.
-/
namespace WechatBot.PluginScope

open PyData
open Records (PluginScope)

inductive ScopeKey where
  | bot_account_ids | chatroom_ids | contact_ids | conversation_ids
  deriving DecidableEq, Repr

def scopeFilterKeys : List ScopeKey :=
  [.bot_account_ids, .chatroom_ids, .contact_ids, .conversation_ids]

/-- `scope.get(key)`. -/
def scopeFilter (scope : PluginScope) : ScopeKey → Option (List Str)
  | .bot_account_ids => scope.botAccountIds
  | .chatroom_ids => scope.chatroomIds
  | .contact_ids => scope.contactIds
  | .conversation_ids => scope.conversationIds

/-- The parts of `_ResolvedContext` that routing reads. A chatroom and a contact are given
by their row and their provider identifier. -/
structure EventContext where
  workspaceId : UUID
  accountId : UUID
  chatroom : Option (UUID × Str)
  contact : Option (UUID × Str)
  deriving DecidableEq, Repr

def actualValue (context : EventContext) : ScopeKey → Option Str
  | .bot_account_ids => some (uuidStr context.accountId)
  | .chatroom_ids => context.chatroom.map fun chatroom => uuidStr chatroom.1
  | .contact_ids => context.contact.map fun contact => uuidStr contact.1
  | .conversation_ids => (context.chatroom.map Prod.snd).or (context.contact.map Prod.snd)

def filterMatches (scope : PluginScope) (context : EventContext) (key : ScopeKey) : Bool :=
  match scopeFilter scope key, actualValue context key with
  | none, _ => true
  | some _, none => false
  | some configured, some actual => configured.contains actual

def scopeMatches (scope : PluginScope) (context : EventContext) : Bool :=
  scope.workspaceId.all (fun expected => decide (expected = uuidStr context.workspaceId)) &&
    scopeFilterKeys.all (filterMatches scope context)

/-- A filter with an empty string in it counts as none. -/
def explicitScopeFilter (scope : PluginScope) (key : ScopeKey) : Option (List Str) :=
  match scopeFilter scope key with
  | none => none
  | some items => if items.any List.isEmpty then none else some items

def filtersOverlap (left right : PluginScope) (key : ScopeKey) : Bool :=
  match explicitScopeFilter left key, explicitScopeFilter right key with
  | some leftItems, some rightItems => leftItems.any rightItems.contains
  | _, _ => true

def scopesOverlap (left right : PluginScope) : Bool :=
  scopeFilterKeys.all (filtersOverlap left right)

theorem explicitScopeFilter_some {scope : PluginScope} {key : ScopeKey} {items : List Str}
    (h : explicitScopeFilter scope key = some items) : scopeFilter scope key = some items := by
  unfold explicitScopeFilter at h
  split at h
  · cases h
  · rename_i configured hconfigured
    split at h
    · cases h
    · cases h
      exact hconfigured

theorem filterMatches_some {scope : PluginScope} {context : EventContext} {key : ScopeKey}
    {items : List Str} (h : filterMatches scope context key = true)
    (hitems : scopeFilter scope key = some items) :
    ∃ actual, actualValue context key = some actual ∧ actual ∈ items := by
  unfold filterMatches at h
  rw [hitems] at h
  cases hactual : actualValue context key with
  | none =>
    rw [hactual] at h
    cases h
  | some actual =>
    rw [hactual] at h
    exact ⟨actual, rfl, by simpa using h⟩

/-- The static test covers the matcher: scopes that match one event overlap. -/
theorem overlap_of_matches {left right : PluginScope} {context : EventContext}
    (hleft : scopeMatches left context = true) (hright : scopeMatches right context = true) :
    scopesOverlap left right = true := by
  simp only [scopeMatches, Bool.and_eq_true, List.all_eq_true] at hleft hright
  rw [scopesOverlap, List.all_eq_true]
  intro key hkey
  unfold filtersOverlap
  split
  · rename_i leftItems rightItems hl hr
    obtain ⟨actual, hactual, hmem⟩ :=
      filterMatches_some (hleft.2 key hkey) (explicitScopeFilter_some hl)
    obtain ⟨other, hother, hmem'⟩ :=
      filterMatches_some (hright.2 key hkey) (explicitScopeFilter_some hr)
    rw [hactual] at hother
    cases hother
    exact List.any_eq_true.mpr ⟨actual, hmem, by simpa using hmem'⟩
  · rfl

structure PluginCommand where
  name : Str
  aliases : List Str
  deriving DecidableEq, Repr

structure PluginManifest where
  pluginId : Str
  commands : List PluginCommand
  capabilities : List Str
  deriving DecidableEq, Repr

def commandWords (command : PluginCommand) : List Str := command.name :: command.aliases

section Words

variable (casefold : Str → Str)

/-- `_command_names`. -/
def commandNames (manifest : PluginManifest) : List Str :=
  manifest.commands.flatMap fun command => (commandWords command).map casefold

/-- The two manifests declare a common name or alias. -/
def namesMeet (left right : PluginManifest) : Bool :=
  (commandNames casefold left).any (commandNames casefold right).contains

/-- The command of a manifest that a word names. -/
def commandFor (manifest : PluginManifest) (word : Str) : Option PluginCommand :=
  manifest.commands.find? fun command =>
    (commandWords command).any fun name => decide (casefold word = casefold name)

end Words

def lstrip (s : Str) : Str := s.dropWhile isSpace

/-- The command word of a message and its arguments. -/
def parseCommand (messageText : Str) : Option (Str × Str) :=
  match strip messageText with
  | [] => none
  | first :: rest =>
    if first = 47 ∨ first = 33 then
      match lstrip rest with
      | [] => none
      | line => some (line.takeWhile (· ≠ 32), lstrip ((line.dropWhile (· ≠ 32)).drop 1))
    else none

theorem mem_commandNames {casefold : Str → Str} {manifest : PluginManifest} {word : Str}
    {command : PluginCommand} (h : commandFor casefold manifest word = some command) :
    casefold word ∈ commandNames casefold manifest := by
  have hmem := List.mem_of_find?_eq_some h
  have hany := List.find?_some h
  obtain ⟨name, hname, heq⟩ := List.any_eq_true.mp hany
  refine List.mem_flatMap.mpr ⟨command, hmem, List.mem_map.mpr ⟨name, hname, ?_⟩⟩
  exact (of_decide_eq_true heq).symm

/-- Manifests that both know a word have a name in common. -/
theorem namesMeet_of_word {casefold : Str → Str} {left right : PluginManifest} {word : Str}
    (hleft : casefold word ∈ commandNames casefold left)
    (hright : casefold word ∈ commandNames casefold right) : namesMeet casefold left right = true :=
  List.any_eq_true.mpr ⟨casefold word, hleft, by simpa using hright⟩

theorem namesMeet_symm {casefold : Str → Str} {left right : PluginManifest}
    (h : namesMeet casefold left right = true) : namesMeet casefold right left = true := by
  obtain ⟨name, hname, hcontains⟩ := List.any_eq_true.mp h
  exact List.any_eq_true.mpr ⟨name, by simpa using hcontains, by simpa using hname⟩

theorem scopesOverlap_symm {left right : PluginScope} (h : scopesOverlap left right = true) :
    scopesOverlap right left = true := by
  rw [scopesOverlap, List.all_eq_true] at h ⊢
  intro key hkey
  have hpair := h key hkey
  unfold filtersOverlap at hpair ⊢
  cases hl : explicitScopeFilter left key with
  | none => cases explicitScopeFilter right key <;> rfl
  | some leftItems =>
    cases hr : explicitScopeFilter right key with
    | none => rfl
    | some rightItems =>
      rw [hl, hr] at hpair
      obtain ⟨item, hitem, hcontains⟩ := List.any_eq_true.mp hpair
      exact List.any_eq_true.mpr ⟨item, by simpa using hcontains, by simpa using hitem⟩

end WechatBot.PluginScope
