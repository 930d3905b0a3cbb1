import Mathlib.Data.List.Pairwise
import WechatBot.CommandRoutes

/-!
# The words of declared commands

The validator of a manifest strips the names and aliases of its commands and refuses blank
and repeated ones; the dispatcher takes the word of a message up to its first blank. The
two agree on a word exactly when it has no blank in it.
-/
namespace WechatBot.CommandWords

open PyData PluginScope CommandRoutes

/-- `PluginCommand.normalize_name`, after the bounds of the field. -/
def normalizeName (value : Str) : Option Str :=
  if value.length < 1 ∨ 80 < value.length then none
  else if strip value = [] then none
  else some (strip value)

/-- `PluginCommand.normalize_aliases`. -/
def normalizeAliases (values : List Str) : Option (List Str) :=
  let normalized := values.map strip
  if normalized.any List.isEmpty then none else some normalized

def validateCommand (command : PluginCommand) : Option PluginCommand := do
  let name ← normalizeName command.name
  let aliases ← normalizeAliases command.aliases
  return ⟨name, aliases⟩

section Manifest

variable (casefold : Str → Str)

/-- The loop of `reject_duplicate_command_names`: no name is refused. -/
def uniqueNames (seen : List Str) : List Str → Bool
  | [] => true
  | name :: names =>
    if casefold name ∈ seen then false else uniqueNames (casefold name :: seen) names

/-- The commands of a manifest; `none` for a ValidationError. -/
def validateCommands (commands : List PluginCommand) : Option (List PluginCommand) :=
  (commands.mapM validateCommand).filter fun validated =>
    uniqueNames casefold [] (validated.flatMap commandWords)

end Manifest

/-- Neither leading nor trailing white space. -/
def Stripped (s : Str) : Prop := strip s = s

theorem strip_strip (s : Str) : Stripped (strip s) := by
  have hdrop : (strip s).dropWhile isSpace = strip s := by
    cases hs : strip s with
    | nil => rfl
    | cons c t =>
      have hkept : c :: t <+: s.dropWhile isSpace := hs ▸ List.rdropWhile_prefix isSpace _
      obtain ⟨rest, hrest⟩ := hkept
      have hne : s.dropWhile isSpace ≠ [] := by
        rw [← hrest]
        simp
      have hhead := List.head_dropWhile_not isSpace hne
      simp only [← hrest, List.cons_append, List.head_cons] at hhead
      rw [List.dropWhile_cons, if_neg (by rw [hhead]; simp)]
  rw [Stripped]
  conv_lhs => rw [strip, hdrop]
  rw [strip, List.rdropWhile_idempotent]

theorem normalizeName_ok {value name : Str} (h : normalizeName value = some name) :
    name ≠ [] ∧ Stripped name := by
  unfold normalizeName at h
  split at h
  · cases h
  · split at h
    · cases h
    · rename_i hne
      cases h
      exact ⟨hne, strip_strip value⟩

theorem normalizeAliases_ok {values aliases : List Str} (h : normalizeAliases values = some aliases) :
    ∀ name ∈ aliases, name ≠ [] ∧ Stripped name := by
  by_cases hnone : (values.map strip).any List.isEmpty = true
  · rw [normalizeAliases, if_pos hnone] at h
    cases h
  · rw [normalizeAliases, if_neg hnone] at h
    cases h
    intro name hname
    obtain ⟨value, hvalue, rfl⟩ := List.mem_map.mp hname
    refine ⟨?_, strip_strip value⟩
    intro hempty
    apply hnone
    rw [List.any_eq_true]
    exact ⟨strip value, hname, by rw [hempty]; rfl⟩

theorem validateCommand_ok {command validated : PluginCommand}
    (h : validateCommand command = some validated) :
    ∀ name ∈ commandWords validated, name ≠ [] ∧ Stripped name := by
  obtain ⟨name, hname, h⟩ := Option.bind_eq_some_iff.mp h
  obtain ⟨aliases, haliases, h⟩ := Option.bind_eq_some_iff.mp h
  cases h
  intro word hword
  rcases List.mem_cons.mp hword with rfl | hword
  · exact normalizeName_ok hname
  · exact normalizeAliases_ok haliases word hword

theorem mapM_mem {α β : Type} {f : α → Option β} {l : List α} : ∀ {l' : List β},
    l.mapM f = some l' → ∀ b ∈ l', ∃ a ∈ l, f a = some b := by
  induction l with
  | nil =>
    intro l' h b hb
    cases h
    cases hb
  | cons a l ih =>
    intro l' h b hb
    rw [List.mapM_cons] at h
    obtain ⟨first, hfirst, h⟩ := Option.bind_eq_some_iff.mp h
    obtain ⟨rest, hrest, h⟩ := Option.bind_eq_some_iff.mp h
    cases h
    rcases List.mem_cons.mp hb with rfl | hb
    · exact ⟨a, by simp, hfirst⟩
    · obtain ⟨a', hmem, ha'⟩ := ih hrest b hb
      exact ⟨a', by simp [hmem], ha'⟩

theorem uniqueNames_nodup {casefold : Str → Str} (names : List Str) : ∀ {seen : List Str},
    uniqueNames casefold seen names = true →
    (names.map casefold).Nodup ∧ ∀ name ∈ names, casefold name ∉ seen := by
  induction names with
  | nil =>
    intro seen _
    simp
  | cons name names ih =>
    intro seen h
    unfold uniqueNames at h
    split at h
    · cases h
    · rename_i hnew
      obtain ⟨hnodup, hunseen⟩ := ih h
      constructor
      · rw [List.map_cons, List.nodup_cons]
        refine ⟨?_, hnodup⟩
        intro hmem
        obtain ⟨other, hother, hsame⟩ := List.mem_map.mp hmem
        exact hunseen other hother (by rw [hsame]; simp)
      · intro other hother
        rcases List.mem_cons.mp hother with rfl | hother
        · exact hnew
        · exact fun hseen => hunseen other hother (by simp [hseen])

/-- Accepted commands have stripped words, and a folded word belongs to one command only. -/
structure Accepted (casefold : Str → Str) (commands : List PluginCommand) : Prop where
  words : ∀ command ∈ commands, ∀ name ∈ commandWords command, name ≠ [] ∧ Stripped name
  unique : ∀ command ∈ commands, ∀ other ∈ commands, ∀ name ∈ commandWords command,
    ∀ name' ∈ commandWords other, casefold name = casefold name' → command = other

theorem validateCommands_accepted {casefold : Str → Str} {commands validated : List PluginCommand}
    (h : validateCommands casefold commands = some validated) : Accepted casefold validated := by
  obtain ⟨hcommands, hunique⟩ := Option.filter_eq_some_iff.mp h
  constructor
  · intro command hcommand
    obtain ⟨raw, -, hraw⟩ := mapM_mem hcommands command hcommand
    exact validateCommand_ok hraw
  · obtain ⟨hnodup, -⟩ := uniqueNames_nodup _ hunique
    rw [List.map_flatMap, List.nodup_flatMap] at hnodup
    intro command hcommand other hother name hname name' hname' hsame
    by_contra hne
    have : Std.Symm (Function.onFun List.Disjoint fun command =>
        (commandWords command).map casefold) := ⟨fun _ _ h _ hleft hright => h hright hleft⟩
    have hdisjoint := hnodup.2.forall hcommand hother hne
    exact hdisjoint (List.mem_map.mpr ⟨name, hname, rfl⟩)
      (hsame ▸ List.mem_map.mpr ⟨name', hname', rfl⟩)

theorem lstrip_of_stripped {s : Str} (h : Stripped s) : lstrip s = s := by
  have hlength := (List.rdropWhile_prefix isSpace (s.dropWhile isSpace)).length_le
  have hsuffix := List.dropWhile_suffix (l := s) isSpace
  apply hsuffix.eq_of_length_le
  rw [Stripped, strip] at h
  rwa [h] at hlength

theorem Stripped.head {c : Nat} {s : Str} (h : Stripped (c :: s)) : isSpace c = false := by
  by_contra hspace
  rw [Bool.not_eq_false] at hspace
  have hdrop := lstrip_of_stripped h
  rw [lstrip, List.dropWhile_cons, if_pos hspace] at hdrop
  have hlength := (List.dropWhile_suffix (l := s) isSpace).length_le
  rw [hdrop, List.length_cons] at hlength
  omega

theorem Stripped.last {c : Nat} {s : Str} (h : Stripped (s ++ [c])) : isSpace c = false := by
  by_contra hspace
  rw [Bool.not_eq_false] at hspace
  have hdrop := lstrip_of_stripped h
  rw [lstrip] at hdrop
  rw [Stripped, strip, hdrop, List.rdropWhile_concat_pos _ _ _ hspace] at h
  have hlength := (List.rdropWhile_prefix isSpace s).length_le
  rw [h, List.length_append, List.length_singleton] at hlength
  omega

theorem stripped_of_ends {first last : Nat} {middle : Str} (hfirst : isSpace first = false)
    (hlast : isSpace last = false) : Stripped (first :: middle ++ [last]) := by
  have hkept := prefix_strip first last middle [] hfirst hlast
  rw [List.append_nil] at hkept
  exact (hkept.eq_of_length_le (length_strip_le _)).symm

theorem stripped_single {c : Nat} (h : isSpace c = false) : Stripped [c] := by
  simp [Stripped, strip, h, List.rdropWhile_singleton]

/-- A text between two characters that are no white space. -/
theorem stripped_cons_append {mark : Nat} {front back : Str} (hmark : isSpace mark = false)
    (hback : Stripped back) (hne : back ≠ []) : Stripped (mark :: front ++ back) := by
  obtain ⟨start, last, rfl⟩ := (List.eq_nil_or_concat back).resolve_left hne
  rw [List.concat_eq_append] at hback ⊢
  rw [List.cons_append, ← List.append_assoc, ← List.cons_append]
  exact stripped_of_ends hmark hback.last

theorem strip_append_blank {mark : Nat} {word : Str} (hmark : isSpace mark = false)
    (hword : Stripped word) : strip (mark :: word ++ [32]) = mark :: word := by
  have hdrop : (mark :: word ++ [32]).dropWhile isSpace = mark :: word ++ [32] := by
    simp [hmark]
  rw [strip, hdrop, List.rdropWhile_concat_pos _ _ _ rfl]
  have hkept : Stripped (mark :: word) := by
    cases hlast : word with
    | nil => exact stripped_single hmark
    | cons c word' =>
      have happend : Stripped (mark :: [] ++ word) :=
        stripped_cons_append hmark hword (by simp [hlast])
      rwa [hlast] at happend
  rw [Stripped, strip, List.dropWhile_cons, if_neg (by simp [hmark])] at hkept
  exact hkept

section Parser

variable {mark : Nat} {word arguments : Str}

/-- The message of a command with its arguments. -/
def invocation (mark : Nat) (word arguments : Str) : Str := mark :: word ++ 32 :: arguments

/-- What is left of it behind the mark. -/
def commandLine (word arguments : Str) : Str :=
  if arguments = [] then word else word ++ 32 :: arguments

theorem isSpace_mark (h : mark = 47 ∨ mark = 33) : isSpace mark = false := by
  rcases h with rfl | rfl <;> rfl

theorem strip_invocation (hmark : isSpace mark = false) (hword : Stripped word)
    (harguments : Stripped arguments) :
    strip (invocation mark word arguments) = mark :: commandLine word arguments := by
  by_cases hempty : arguments = []
  · rw [invocation, commandLine, if_pos hempty, hempty]
    exact strip_append_blank hmark hword
  · rw [commandLine, if_neg hempty]
    have hstripped : Stripped (mark :: (word ++ [32]) ++ arguments) :=
      stripped_cons_append hmark harguments hempty
    simpa [invocation, Stripped] using hstripped

theorem commandLine_stripped (hword : Stripped word) (hne : word ≠ [])
    (harguments : Stripped arguments) : Stripped (commandLine word arguments) := by
  by_cases hempty : arguments = []
  · rwa [commandLine, if_pos hempty]
  · rw [commandLine, if_neg hempty]
    cases word with
    | nil => exact absurd rfl hne
    | cons c word =>
      have hstripped : Stripped (c :: (word ++ [32]) ++ arguments) :=
        stripped_cons_append hword.head harguments hempty
      simpa using hstripped

theorem commandLine_ne_nil (hne : word ≠ []) : commandLine word arguments ≠ [] := by
  unfold commandLine
  split
  · exact hne
  · simp

/-- The message is taken apart at the first blank of its line. -/
theorem parse_invocation (hmark : mark = 47 ∨ mark = 33) (hword : Stripped word) (hne : word ≠ [])
    (harguments : Stripped arguments) :
    parseCommand (invocation mark word arguments) =
      some ((commandLine word arguments).takeWhile (· ≠ 32),
        lstrip (((commandLine word arguments).dropWhile (· ≠ 32)).drop 1)) := by
  have hline : commandLine word arguments ≠ [] := commandLine_ne_nil hne
  have hstripped := commandLine_stripped hword hne harguments
  unfold parseCommand
  rw [strip_invocation (isSpace_mark hmark) hword harguments]
  simp only [if_pos hmark]
  rw [lstrip_of_stripped hstripped]
  cases hcase : commandLine word arguments with
  | nil => exact absurd hcase hline
  | cons c line => rfl

theorem takeWhile_blank {front : Str} (h : 32 ∉ front) (back : Str) :
    (front ++ 32 :: back).takeWhile (· ≠ 32) = front ∧
      (front ++ 32 :: back).dropWhile (· ≠ 32) = 32 :: back := by
  have hall : ∀ c ∈ front, decide (c ≠ 32) = true := by
    intro c hc
    rw [decide_eq_true_eq]
    rintro rfl
    exact h hc
  constructor
  · rw [List.takeWhile_append_of_pos hall]
    simp
  · rw [List.dropWhile_append_of_pos hall]
    simp

/-- A word without a blank is read back with its arguments. -/
theorem parse_plain (hmark : mark = 47 ∨ mark = 33) (hword : Stripped word) (hne : word ≠ [])
    (harguments : Stripped arguments) (hblank : 32 ∉ word) :
    parseCommand (invocation mark word arguments) = some (word, arguments) := by
  rw [parse_invocation hmark hword hne harguments]
  unfold commandLine
  split
  · rename_i hempty
    have hall : ∀ c ∈ word, decide (c ≠ 32) = true := by
      intro c hc
      rw [decide_eq_true_eq]
      rintro rfl
      exact hblank hc
    rw [List.takeWhile_eq_self_iff.mpr hall, List.dropWhile_eq_nil_iff.mpr hall, hempty]
    rfl
  · obtain ⟨htake, hdrop⟩ := takeWhile_blank hblank arguments
    rw [htake, hdrop, List.drop_one, List.tail_cons, lstrip_of_stripped harguments]

/-- A text that is not blank keeps what follows it. -/
theorem length_lstrip_append {text : Str} {c : Nat} (hmem : c ∈ text) (hc : isSpace c = false)
    (rest : Str) : rest.length < (lstrip (text ++ rest)).length := by
  have hne : lstrip text ≠ [] := by
    rw [lstrip, Ne, List.dropWhile_eq_nil_iff]
    intro hall
    rw [hall c hmem] at hc
    cases hc
  have happend : lstrip (text ++ rest) = lstrip text ++ rest := by
    rw [lstrip, List.dropWhile_append, if_neg]
    · rfl
    · rw [List.isEmpty_iff]
      exact hne
  rw [happend, List.length_append]
  have hpos := List.length_pos_of_ne_nil hne
  omega

/-- Behind an inner blank there is always something besides the arguments. -/
theorem parse_blank (hmark : mark = 47 ∨ mark = 33) (hword : Stripped word) (hne : word ≠ [])
    (harguments : Stripped arguments) (hblank : 32 ∈ word) (found : Str) :
    parseCommand (invocation mark word arguments) ≠ some (found, arguments) := by
  intro hparse
  rw [parse_invocation hmark hword hne harguments, Option.some.injEq, Prod.mk.injEq] at hparse
  have hfound := hparse.2
  obtain ⟨front, back, rfl, hfront⟩ := List.eq_append_cons_of_mem hblank
  have hback : back ≠ [] := by
    rintro rfl
    exact absurd hword.last (by decide)
  obtain ⟨start, last, rfl⟩ := (List.eq_nil_or_concat back).resolve_left hback
  rw [List.concat_eq_append] at hword hfound
  have hlast : isSpace last = false := by
    apply Stripped.last (s := front ++ 32 :: start)
    simpa using hword
  have hmem : last ∈ start ++ [last] := by simp
  unfold commandLine at hfound
  split at hfound
  · rename_i hempty
    rw [(takeWhile_blank hfront _).2, List.drop_one, List.tail_cons] at hfound
    have hlength := length_lstrip_append hmem hlast []
    rw [List.append_nil, hfound, hempty] at hlength
    simp at hlength
  · rw [List.append_assoc, List.cons_append, (takeWhile_blank hfront _).2, List.drop_one,
      List.tail_cons] at hfound
    have hlength := length_lstrip_append hmem hlast (32 :: arguments)
    rw [hfound, List.length_cons] at hlength
    omega

end Parser

theorem find?_eq_of_unique {α : Type*} {l : List α} {p : α → Bool} {a : α} (hmem : a ∈ l)
    (hp : p a = true) (hunique : ∀ b ∈ l, p b = true → b = a) : l.find? p = some a := by
  cases hfind : l.find? p with
  | none => exact absurd hp (by simpa using List.find?_eq_none.mp hfind a hmem)
  | some b => rw [hunique b (List.mem_of_find?_eq_some hfind) (List.find?_some hfind)]

section Invocation

variable {casefold : Str → Str} {manifest : PluginManifest} {command : PluginCommand} {word : Str}

theorem commandFor_declared (haccepted : Accepted casefold manifest.commands)
    (hcommand : command ∈ manifest.commands) (hword : word ∈ commandWords command) :
    commandFor casefold manifest word = some command := by
  apply find?_eq_of_unique hcommand
  · exact List.any_eq_true.mpr ⟨word, hword, decide_eq_true rfl⟩
  · intro other hother hnames
    obtain ⟨name, hname, hsame⟩ := List.any_eq_true.mp hnames
    exact (haccepted.unique command hcommand other hother word hword name hname
      (of_decide_eq_true hsame)).symm

/-- The arguments of a command route are those of the message. -/
theorem mem_commandRoutes {routes : List Route} {message : Str} {found : CommandRoute}
    (h : found ∈ commandRoutes casefold routes message) :
    ∃ word, parseCommand message = some (word, found.arguments) := by
  unfold commandRoutes at h
  cases hparse : parseCommand message with
  | none =>
    rw [hparse] at h
    cases h
  | some parsed =>
    obtain ⟨word, rest⟩ := parsed
    rw [hparse] at h
    obtain ⟨route, -, hmade⟩ := List.mem_filterMap.mp h
    obtain ⟨command, -, rfl⟩ := Option.map_eq_some_iff.mp hmade
    exact ⟨word, rfl⟩

/-- A declared word names its command, with both marks and the arguments as they were given,
exactly when there is no blank in it. -/
theorem declared_command_invoked (casefold : Str → Str) (commands : List PluginCommand)
    (route : Route) (command : PluginCommand) (word arguments : Str)
    (haccepted : validateCommands casefold commands = some route.manifest.commands)
    (hcommand : command ∈ route.manifest.commands) (hword : word ∈ commandWords command)
    (harguments : strip arguments = arguments) :
    (commandRoutes casefold [route] (py "/" ++ word ++ py " " ++ arguments) =
        [⟨route, command, arguments⟩] ∧
      commandRoutes casefold [route] (py "!" ++ word ++ py " " ++ arguments) =
        [⟨route, command, arguments⟩]) ↔ 32 ∉ word := by
  have hall := validateCommands_accepted haccepted
  obtain ⟨hne, hstripped⟩ := hall.words command hcommand word hword
  have hslash : py "/" ++ word ++ py " " ++ arguments = invocation 47 word arguments := by
    simp [invocation, py]
  have hbang : py "!" ++ word ++ py " " ++ arguments = invocation 33 word arguments := by
    simp [invocation, py]
  rw [hslash, hbang]
  constructor
  · rintro ⟨hroutes, -⟩ hblank
    obtain ⟨found, hparse⟩ := mem_commandRoutes (hroutes ▸ List.mem_singleton_self _)
    exact parse_blank (.inl rfl) hstripped hne harguments hblank found hparse
  · intro hblank
    have hfound := commandFor_declared hall hcommand hword
    constructor
    · rw [commandRoutes, parse_plain (.inl rfl) hstripped hne harguments hblank]
      simp [hfound]
    · rw [commandRoutes, parse_plain (.inr rfl) hstripped hne harguments hblank]
      simp [hfound]

end Invocation

section Sample

def sampleRoute (commands : List PluginCommand) : Route where
  deployment := ⟨1, 2, 3, py "sample", .RUNNING, some 4, none⟩
  revision := ⟨4, 1, 5, 1, ⟨none, none, none, none, none⟩, []⟩
  manifest := ⟨py "sample.plugin", commands, []⟩

/-- The validators accept a name that no message can name. -/
theorem blank_in_name :
    validateCommands foldAscii [⟨py " foo bar ", []⟩] = some [⟨py "foo bar", []⟩] ∧
      commandRoutes foldAscii [sampleRoute [⟨py "foo bar", []⟩]] (py "/foo bar now") = [] ∧
      ¬ ∀ commands (route : Route) command word arguments,
        validateCommands foldAscii commands = some route.manifest.commands →
        command ∈ route.manifest.commands → word ∈ commandWords command →
        strip arguments = arguments →
        commandRoutes foldAscii [route] (py "/" ++ word ++ py " " ++ arguments) =
            [⟨route, command, arguments⟩] ∧
          commandRoutes foldAscii [route] (py "!" ++ word ++ py " " ++ arguments) =
            [⟨route, command, arguments⟩] := by
  refine ⟨by decide, rfl, ?_⟩
  intro hclaim
  have hroute := (hclaim [⟨py " foo bar ", []⟩] (sampleRoute [⟨py "foo bar", []⟩])
    ⟨py "foo bar", []⟩ (py "foo bar") (py "now") (by decide) (by decide) (by decide)
    (by decide)).1
  have hnone : commandRoutes foldAscii [sampleRoute [⟨py "foo bar", []⟩]]
      (py "/" ++ py "foo bar" ++ py " " ++ py "now") = [] := rfl
  rw [hnone] at hroute
  cases hroute

theorem declared_command_invoked_weather :
    commandRoutes foldAscii [sampleRoute [⟨py "Weather", [py "w"]⟩]] (py "/" ++ py "w" ++ py " " ++
        py "in Paris") = [⟨sampleRoute [⟨py "Weather", [py "w"]⟩], ⟨py "Weather", [py "w"]⟩,
          py "in Paris"⟩] ∧
      commandRoutes foldAscii [sampleRoute [⟨py "Weather", [py "w"]⟩]] (py "!" ++ py "w" ++
        py " " ++ py "in Paris") = [⟨sampleRoute [⟨py "Weather", [py "w"]⟩],
          ⟨py "Weather", [py "w"]⟩, py "in Paris"⟩] :=
  (declared_command_invoked foldAscii [⟨py "Weather", [py " w"]⟩]
    (sampleRoute [⟨py "Weather", [py "w"]⟩]) ⟨py "Weather", [py "w"]⟩ (py "w") (py "in Paris")
    (by decide) (by decide) (by decide) (by decide)).mpr (by decide)

end Sample

end WechatBot.CommandWords
