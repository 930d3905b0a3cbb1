import Mathlib.Data.Nat.ModEq
import WechatBot.PluginPackages
import WechatBot.PrefixCodes
import WechatBot.Results

/-!
# Package digests

The stream that the digest of a package is made of: every path and every content behind
its length. The lengths have a fixed width, so that the stream determines the files.
-/
namespace WechatBot.PackageDigests

open PyData PluginPackages PrefixCodes

/-- The characters of a text; a surrogate is none. -/
def characters (s : Str) : Option (List Char) :=
  s.mapM fun c => if c.isValidChar then some (Char.ofNat c) else none

/-- `str.encode("utf-8")`. -/
def utf8 (s : Str) : Option (List UInt8) :=
  (characters s).map fun cs => cs.flatMap String.utf8EncodeChar

theorem toNat_characters {s : Str} : ∀ {cs : List Char}, characters s = some cs →
    cs.map Char.toNat = s := by
  induction s with
  | nil =>
    intro cs h
    cases h
    rfl
  | cons c s ih =>
    intro cs h
    rw [characters, List.mapM_cons] at h
    obtain ⟨first, hfirst, h⟩ := Option.bind_eq_some_iff.mp h
    obtain ⟨rest, hrest, h⟩ := Option.bind_eq_some_iff.mp h
    cases h
    split at hfirst
    · rename_i hvalid
      cases hfirst
      have hchar : (Char.ofNat c).toNat = c := by
        unfold Char.ofNat
        rw [dif_pos hvalid]
        rfl
      rw [List.map_cons, ih hrest, hchar]
    · cases hfirst

theorem utf8EncodeChar_injective :
    Function.Injective fun cs : List Char => cs.flatMap String.utf8EncodeChar := by
  intro cs cs' h
  have hbytes : cs.utf8Encode = cs'.utf8Encode := congrArg List.toByteArray h
  have hdecoded := congrArg ByteArray.utf8Decode? hbytes
  simpa using hdecoded

/-- The bytes of a text determine it. -/
theorem utf8_inj {s t : Str} {bytes : List UInt8} (hs : utf8 s = some bytes)
    (ht : utf8 t = some bytes) : s = t := by
  obtain ⟨cs, hcs, rfl⟩ := Option.map_eq_some_iff.mp hs
  obtain ⟨cs', hcs', hsame⟩ := Option.map_eq_some_iff.mp ht
  obtain rfl := utf8EncodeChar_injective hsame
  rw [← toNat_characters hcs, ← toNat_characters hcs']

def lengthBytes (width n : Nat) : List UInt8 :=
  (List.range width).reverse.map fun i => UInt8.ofNat (n / 256 ^ i)

theorem bigEndian_ok {width n : Nat} {bytes : List UInt8} :
    bigEndian width n = .ok bytes ↔ n < 256 ^ width ∧ bytes = lengthBytes width n := by
  unfold bigEndian lengthBytes
  split
  · rename_i hn
    simp [hn, eq_comm]
  · rename_i hn
    simp [hn]

theorem length_lengthBytes (width n : Nat) : (lengthBytes width n).length = width := by
  simp [lengthBytes]

/-- A length field determines its length. -/
theorem lengthBytes_inj {width m n : Nat} (hm : m < 256 ^ width) (hn : n < 256 ^ width)
    (h : lengthBytes width m = lengthBytes width n) : m = n := by
  have hbyte : ∀ i < width, m / 256 ^ i % 256 = n / 256 ^ i % 256 := by
    intro i hi
    have hsame := List.map_inj_left.mp h i (by simpa using hi)
    simpa using congrArg UInt8.toNat hsame
  -- the lower bytes determine the number below their power
  have hlow : ∀ k ≤ width, m % 256 ^ k = n % 256 ^ k := by
    intro k
    induction k with
    | zero => simp [Nat.mod_one]
    | succ k ih =>
      intro hk
      rw [Nat.mod_pow_succ, Nat.mod_pow_succ, ih (by omega), hbyte k (by omega)]
  have hall := hlow width le_rfl
  rwa [Nat.mod_eq_of_lt hm, Nat.mod_eq_of_lt hn] at hall

/-- The bytes of a path and of a content, each of a length that has its place. -/
abbrev Frame :=
  {name : List UInt8 // name.length < 256 ^ 4} × {content : List UInt8 // content.length < 256 ^ 8}

def Frame.bytes (frame : Frame) : List UInt8 :=
  (lengthBytes 4 frame.1.1.length ++ frame.1.1) ++ (lengthBytes 8 frame.2.1.length ++ frame.2.1)

/-- No frame is the beginning of another, so that frames one after another can be told apart. -/
theorem frames_delimit : SelfDelimiting Frame.bytes :=
  (counted_delimits (length_lengthBytes 4) fun _ _ => lengthBytes_inj).append
    (counted_delimits (length_lengthBytes 8) fun _ _ => lengthBytes_inj)

theorem Frame.bytes_ne_nil (frame : Frame) : frame.bytes ≠ [] := by
  intro h
  have hlength := congrArg List.length h
  simp only [Frame.bytes, List.length_append, length_lengthBytes, List.length_nil] at hlength
  omega

/-- The frame that is written for a file. -/
def Framed (tools : PackageTools) (file : PackageFile) (frame : Frame) : Prop :=
  tools.utf8 (posixPath file.parts) = some frame.1.1 ∧ file.content = some frame.2.1

/-- The bytes of a file are those of its frame. -/
theorem fileBytes_ok {tools : PackageTools} {file : PackageFile} {bytes : List UInt8}
    (h : fileBytes tools file = .ok bytes) :
    ∃ frame : Frame, Framed tools file frame ∧ frame.bytes = bytes := by
  obtain ⟨relative, hrelative, h⟩ := Results.bind_ok.mp h
  obtain ⟨nameLength, hname, h⟩ := Results.bind_ok.mp h
  obtain ⟨content, hcontent, h⟩ := Results.bind_ok.mp h
  obtain ⟨contentLength, hlength, h⟩ := Results.bind_ok.mp h
  obtain ⟨hnameBound, rfl⟩ := bigEndian_ok.mp hname
  obtain ⟨hcontentBound, rfl⟩ := bigEndian_ok.mp hlength
  cases h
  refine ⟨(⟨relative, hnameBound⟩, ⟨content, hcontentBound⟩), ?_, by simp [Frame.bytes]⟩
  exact ⟨Results.elim_ok.mp hrelative, Results.elim_ok.mp hcontent⟩

/-- The stream is that of the frames in their order. -/
theorem digestStream_ok {tools : PackageTools} {files : List PackageFile} {stream : List UInt8}
    (h : digestStream tools files = .ok stream) :
    ∃ frames, List.Forall₂ (Framed tools) (digestOrder files) frames ∧
      frames.flatMap Frame.bytes = stream := by
  have hread : ∀ {files : List PackageFile} {chunks : List (List UInt8)},
      files.mapM (fileBytes tools) = .ok chunks →
        ∃ frames, List.Forall₂ (Framed tools) files frames ∧ frames.map Frame.bytes = chunks := by
    intro files
    induction files with
    | nil =>
      intro chunks h
      cases h
      exact ⟨[], .nil, rfl⟩
    | cons file files ih =>
      intro chunks h
      rw [List.mapM_cons] at h
      obtain ⟨bytes, hbytes, h⟩ := Results.bind_ok.mp h
      obtain ⟨rest, hrest, h⟩ := Results.bind_ok.mp h
      cases h
      obtain ⟨frame, hframe, rfl⟩ := fileBytes_ok hbytes
      obtain ⟨frames, hframes, rfl⟩ := ih hrest
      exact ⟨frame :: frames, .cons hframe hframes, rfl⟩
  unfold digestStream at h
  cases hchunks : (digestOrder files).mapM (fileBytes tools) with
  | error error =>
    rw [hchunks] at h
    cases h
  | ok chunks =>
    rw [hchunks] at h
    cases h
    obtain ⟨frames, hframes, rfl⟩ := hread hchunks
    exact ⟨frames, hframes, by rw [List.flatMap_def]⟩

def pathContent (file : PackageFile) : Str × Option (List UInt8) :=
  (posixPath file.parts, file.content)

/-- The relative paths of the files with their contents. -/
def pathContents (files : List PackageFile) : Set (Str × List UInt8) :=
  {p | ∃ file ∈ files, posixPath file.parts = p.1 ∧ file.content = some p.2}

/-- Files with the same frames have the same paths and contents. -/
theorem framed_inj {tools : PackageTools} (hutf8 : tools.utf8 = utf8) {frames : List Frame}
    {files files' : List PackageFile} (h : List.Forall₂ (Framed tools) files frames)
    (h' : List.Forall₂ (Framed tools) files' frames) :
    files.map pathContent = files'.map pathContent := by
  induction h generalizing files' with
  | nil =>
    cases h'
    rfl
  | cons hfile _ ih =>
    cases h' with
    | cons hfile' hrest =>
      unfold Framed at hfile hfile'
      rw [hutf8] at hfile hfile'
      have hpath := utf8_inj hfile.1 hfile'.1
      rw [List.map_cons, List.map_cons, ih hrest, pathContent, pathContent, hpath, hfile.2, hfile'.2]

/-- Equal streams come from the same files, in whatever order. -/
theorem digestStream_perm {tools : PackageTools} (hutf8 : tools.utf8 = utf8)
    {files files' : List PackageFile} {stream : List UInt8}
    (h : digestStream tools files = .ok stream) (h' : digestStream tools files' = .ok stream) :
    (files.map pathContent).Perm (files'.map pathContent) := by
  obtain ⟨frames, hframes, rfl⟩ := digestStream_ok h
  obtain ⟨frames', hframes', hsame⟩ := digestStream_ok h'
  obtain rfl := frames_delimit.flatMap_injective Frame.bytes_ne_nil hsame
  have hordered := framed_inj hutf8 hframes hframes'
  have hsorted : ∀ l : List PackageFile, (digestOrder l).Perm l := List.perm_insertionSort _
  exact ((hsorted files).map _).symm.trans (hordered ▸ (hsorted files').map _)

theorem mem_pathContents {files : List PackageFile} {p : Str × List UInt8} :
    p ∈ pathContents files ↔ (p.1, some p.2) ∈ files.map pathContent := by
  simp [pathContents, pathContent]

/-- Packages with one stream have the same files, each as often in the one as in the other. -/
theorem digest_framing_injective {tools : PackageTools} (hutf8 : tools.utf8 = utf8)
    {files files' : List PackageFile} {stream : List UInt8}
    (h : digestStream tools files = .ok stream) (h' : digestStream tools files' = .ok stream) :
    pathContents files = pathContents files' ∧
      (files.map pathContent).Perm (files'.map pathContent) := by
  have hperm := digestStream_perm hutf8 h h'
  refine ⟨?_, hperm⟩
  ext p
  rw [mem_pathContents, mem_pathContents, hperm.mem_iff]

/-- Two files swap their order, and the stream stays the same. -/
theorem digest_framing_injective_swapped :
    let tools : PackageTools := ⟨utf8, fun _ => none, fun _ => []⟩
    let manifest : PackageFile := ⟨[py "manifest.toml"], some 1, some [97]⟩
    let main : PackageFile := ⟨[py "src", py "main.py"], some 2, some [98, 99]⟩
    (digestStream tools [manifest, main]).toOption.isSome = true ∧
      pathContents [manifest, main] = pathContents [main, manifest] := by
  intro tools manifest main
  have h : digestStream tools [manifest, main] =
      .ok ([0, 0, 0, 13] ++ [109, 97, 110, 105, 102, 101, 115, 116, 46, 116, 111, 109, 108] ++
        [0, 0, 0, 0, 0, 0, 0, 1, 97] ++ [0, 0, 0, 11] ++
        [115, 114, 99, 47, 109, 97, 105, 110, 46, 112, 121] ++ [0, 0, 0, 0, 0, 0, 0, 2, 98, 99]) := by
    rfl
  have h' : digestStream tools [main, manifest] = digestStream tools [manifest, main] := by
    rfl
  refine ⟨by rw [h]; rfl, ?_⟩
  exact (@digest_framing_injective tools rfl _ _ _ h (h'.trans h)).1

theorem loadPluginManifest_ok {tools : PackageTools} {directory : PackageDirectory}
    {manifest : PluginScope.PluginManifest} {digest : Str}
    (h : loadPluginManifest tools directory = .ok (manifest, digest)) :
    ∃ stream, digestStream tools (packageFiles directory) = .ok stream ∧
      tools.sha256 stream = digest := by
  unfold loadPluginManifest at h
  split at h
  · cases h
  split at h
  · cases h
  split at h
  · cases h
  simp only at h
  split at h
  · cases h
  split at h
  · cases h
  split at h
  · cases h
  split at h
  · cases h
  split at h
  · cases h
  cases hstream : digestStream tools (packageFiles directory) with
  | error error =>
    rw [hstream] at h
    cases h
  | ok stream =>
    rw [hstream] at h
    cases h
    exact ⟨stream, rfl, rfl⟩

/-- Names of files as the operating system has them. -/
def Named (directory : PackageDirectory) : Prop :=
  ∀ file ∈ directory.files, file.parts ≠ [] ∧ ∀ part ∈ file.parts, 47 ∉ part

/-- A path without slashes in its parts determines them. -/
theorem posixPath_inj {parts parts' : List Str} (hne : parts ≠ []) (hne' : parts' ≠ [])
    (hslash : ∀ part ∈ parts, 47 ∉ part) (hslash' : ∀ part ∈ parts', 47 ∉ part)
    (h : posixPath parts = posixPath parts') : parts = parts' := by
  rw [← List.splitOn_intercalate 47 hslash hne, ← List.splitOn_intercalate 47 hslash' hne']
  exact congrArg (List.splitOn 47) h

/-- A file of a package, with what can be read of it. -/
def Has (directory : PackageDirectory) (parts : List Str) (content : List UInt8) : Prop :=
  ∃ file ∈ packageFiles directory, file.parts = parts ∧ file.content = some content

/-- A package with the same paths and contents has the same files. -/
theorem Has.transfer {directory directory' : PackageDirectory} (hnamed : Named directory)
    (hnamed' : Named directory')
    (hperm : ((packageFiles directory).map pathContent).Perm
      ((packageFiles directory').map pathContent))
    {parts : List Str} {content : List UInt8} (h : Has directory parts content) :
    Has directory' parts content := by
  obtain ⟨file, hfile, rfl, hcontent⟩ := h
  have hmem := hperm.mem_iff.mp (List.mem_map_of_mem hfile)
  obtain ⟨file', hfile', hsame⟩ := List.mem_map.mp hmem
  simp only [pathContent, Prod.mk.injEq] at hsame
  obtain ⟨hne, hslash⟩ := hnamed file (List.mem_filter.mp hfile).1
  obtain ⟨hne', hslash'⟩ := hnamed' file' (List.mem_filter.mp hfile').1
  exact ⟨file', hfile', posixPath_inj hne' hne hslash' hslash hsame.1, hsame.2.trans hcontent⟩

/-- Two packages of one digest have the same files, or they show a collision of SHA-256. -/
theorem digest_pins_package {tools : PackageTools} (hutf8 : tools.utf8 = utf8)
    {directory directory' : PackageDirectory} (hnamed : Named directory)
    (hnamed' : Named directory') {manifest manifest' : PluginScope.PluginManifest} {digest : Str}
    (h : loadPluginManifest tools directory = .ok (manifest, digest))
    (h' : loadPluginManifest tools directory' = .ok (manifest', digest)) :
    (∀ parts content, Has directory parts content ↔ Has directory' parts content) ∨
      ∃ stream stream', stream ≠ stream' ∧ tools.sha256 stream = tools.sha256 stream' := by
  obtain ⟨stream, hstream, hdigest⟩ := loadPluginManifest_ok h
  obtain ⟨stream', hstream', hdigest'⟩ := loadPluginManifest_ok h'
  by_cases hsame : stream = stream'
  · subst hsame
    have hperm := digestStream_perm hutf8 hstream hstream'
    left
    intro parts content
    exact ⟨Has.transfer hnamed hnamed' hperm, Has.transfer hnamed' hnamed hperm.symm⟩
  · exact .inr ⟨stream, stream', hsame, hdigest.trans hdigest'.symm⟩

end WechatBot.PackageDigests
