import LanguageServer.Editor.Surroundings
import LanguageServer.Proofs.Paths
import Mathlib.Data.List.TakeWhile

namespace LanguageServer

/-!
# A file has one key

The sources of a workspace are filed under the URLs of their paths, and a document that the editor
opens under the key of its URL.  Both must agree, or the compiler sees one file twice.

What is supposed of the library for URLs is what the URL standard says of file URLs, and that the
names of a path are written as percent codes and read from them.  A name is a sequence of bytes.  It
is encoded so that nothing in it is left that the reader of URLs would take for something else: no
slash, no dot that stands for a directory, no query, no fragment, no blank at the end.  So the URL
of a path is read back as it was, and decoding its segments gives the names.

The library that is used does what is supposed.
-/

namespace Url

/-! ## Percent codes -/

theorem hexDigitValue?_upperHexDigit {value : Nat} (small : value < 16) :
    hexDigitValue? (upperHexDigit value) = some value := by
  revert value
  decide

theorem utf8EncodeChar_ascii {c : Char} (ascii : c.toNat < 128) :
    String.utf8EncodeChar c = [UInt8.ofNat c.toNat] := by
  have small : c.val.toNat ≤ 127 := Nat.le_of_lt_succ ascii
  rw [String.utf8EncodeChar, if_pos small]
  rfl

/-- A byte stands for itself, or is written as its percent code. -/
theorem encodeByte_cases (set : EncodeSet) (byte : UInt8) :
    (exists c : Char, encodeByte set byte = [c] ∧ c.toNat = byte.toNat ∧ byte.toNat < 128 ∧
      set c = false) ∨
    (exists high low, encodeByte set byte = ['%', upperHexDigit high, upperHexDigit low] ∧
      high < 16 ∧ low < 16 ∧ high * 16 + low = byte.toNat) := by
  rw [encodeByte]
  split
  next free =>
    rw [Bool.and_eq_true, decide_eq_true_eq, Bool.not_eq_true'] at free
    have valid : byte.toNat.isValidChar := Or.inl (by omega)
    have code : (Char.ofNat byte.toNat).toNat = byte.toNat := by
      rw [Char.ofNat, dif_pos valid]
      rfl
    exact Or.inl ⟨Char.ofNat byte.toNat, rfl, code, free.1, free.2⟩
  next =>
    exact Or.inr ⟨byte.toNat / 16, byte.toNat % 16, rfl, Nat.div_lt_of_lt_mul byte.toNat_lt,
      Nat.mod_lt _ (by decide), Nat.div_add_mod' _ _⟩

theorem decodeText_cons {c : Char} (literal : c ≠ '%') (rest : List Char) :
    decodeText (c :: rest) = String.utf8EncodeChar c ++ decodeText rest := by
  rw [decodeText]
  intro high low more same
  exact absurd same literal

theorem decodeText_code {high low : Char} {left right : Nat} (rest : List Char)
    (highRead : hexDigitValue? high = some left) (lowRead : hexDigitValue? low = some right) :
    decodeText ('%' :: high :: low :: rest) =
      UInt8.ofNat (left * 16 + right) :: decodeText rest := by
  rw [decodeText, highRead, lowRead]

section Encoded

variable {set : EncodeSet} (coded : set '%' = true)

include coded

/-- A byte that was encoded is decoded, if percent signs are encoded too. -/
theorem decodeText_encodeByte (byte : UInt8) (rest : List Char) :
    decodeText (encodeByte set byte ++ rest) = byte :: decodeText rest := by
  rcases encodeByte_cases set byte with ⟨c, written, code, ascii, free⟩ |
    ⟨high, low, written, highSmall, lowSmall, code⟩
  · have literal : c ≠ '%' := by
      rintro rfl
      rw [coded] at free
      cases free
    rw [written, List.singleton_append, decodeText_cons literal,
      utf8EncodeChar_ascii (by omega), code, UInt8.ofNat_toNat, List.singleton_append]
  · rw [written]
    simp only [List.cons_append, List.nil_append]
    rw [decodeText_code rest (hexDigitValue?_upperHexDigit highSmall)
      (hexDigitValue?_upperHexDigit lowSmall), code, UInt8.ofNat_toNat]

theorem decodeText_encodeBytes (bytes : List UInt8) :
    decodeText (encodeBytes set bytes) = bytes := by
  induction bytes with
  | nil => rfl
  | cons byte rest inductionHypothesis =>
      rw [encodeBytes, List.flatMap_cons, decodeText_encodeByte coded]
      rw [encodeBytes] at inductionHypothesis
      rw [inductionHypothesis]

theorem encodeBytes_eq_nil {bytes : List UInt8} (empty : encodeBytes set bytes = []) :
    bytes = [] := by
  rw [← decodeText_encodeBytes coded bytes, empty]
  rfl

end Encoded

/-- A spelled dot stands for a dot. -/
theorem decodeText_of_dropDot {text rest : List Char} (dropped : dropDot text = some rest) :
    decodeText text = Files.Path.dot :: decodeText rest := by
  rw [dropDot.eq_def] at dropped
  split at dropped <;> cases dropped
  · exact decodeText_cons (by decide) rest
  · exact @decodeText_code '2' 'e' 2 14 rest rfl rfl
  · exact @decodeText_code '2' 'E' 2 14 rest rfl rfl

theorem decodeText_of_isSingleDot {segment : List Char} (dot : isSingleDot segment = true) :
    decodeText segment = [Files.Path.dot] := by
  rw [isSingleDot, beq_iff_eq] at dot
  exact decodeText_of_dropDot dot

theorem decodeText_of_isDoubleDot {segment : List Char} (dots : isDoubleDot segment = true) :
    decodeText segment = [Files.Path.dot, Files.Path.dot] := by
  rw [isDoubleDot, beq_iff_eq] at dots
  rcases Option.bind_eq_some_iff.mp dots with ⟨rest, first, second⟩
  rw [decodeText_of_dropDot first, decodeText_of_dropDot second]
  rfl

/-- A name that is a letter and a colon or a bar, like that of a drive. -/
def isDriveName : Files.Path -> Bool
  | [letter, mark] => (Char.ofNat letter.toNat).isAlpha && (mark == 0x3A || mark == 0x7C)
  | _ => false

theorem ascii_of_isAlpha {c : Char} (alpha : c.isAlpha = true) : c.toNat < 128 := by
  have cases : c.isUpper = true ∨ c.isLower = true := Bool.or_eq_true_iff.mp alpha
  rcases cases with upper | lower
  · have range : c.val ≥ 'A'.val ∧ c.val ≤ 'Z'.val := of_decide_eq_true upper
    exact Nat.lt_of_le_of_lt (UInt32.le_iff_toNat_le.mp range.2) (by decide)
  · have range : decide (c.val ≥ 'a'.val) = true ∧ decide (c.val ≤ 'z'.val) = true :=
      Bool.and_eq_true_iff.mp lower
    exact Nat.lt_of_le_of_lt (UInt32.le_iff_toNat_le.mp (of_decide_eq_true range.2)) (by decide)

theorem isDriveName_of_isDriveLetter {segment : List Char} (drive : isDriveLetter segment = true) :
    isDriveName (decodeText segment) = true := by
  rw [isDriveLetter.eq_def] at drive
  split at drive
  next letter mark =>
    rw [Bool.and_eq_true, Bool.or_eq_true, beq_iff_eq, beq_iff_eq] at drive
    rcases drive with ⟨alpha, marked⟩
    have ascii := ascii_of_isAlpha alpha
    have literal : letter ≠ '%' := by
      rintro rfl
      cases alpha
    have code : (UInt8.ofNat letter.toNat).toNat = letter.toNat :=
      Text.Utf8.toNat_ofNat (Nat.lt_trans ascii (by decide))
    rw [decodeText_cons literal, utf8EncodeChar_ascii ascii]
    rcases marked with rfl | rfl
    · rw [decodeText_cons (by decide), utf8EncodeChar_ascii (by decide)]
      simp [decodeText, isDriveName, code, alpha]
    · rw [decodeText_cons (by decide), utf8EncodeChar_ascii (by decide)]
      simp [decodeText, isDriveName, code, alpha]
  next => cases drive

/-! ## What is supposed of a library -/

/-- A character of a path that no reader changes or stops at. -/
structure Calm (pathSet : EncodeSet) (c : Char) : Prop where
  ascii : c.toNat < 128
  free : pathSet c = false
  noBackslash : c ≠ '\\'

instance (pathSet : EncodeSet) (c : Char) : Decidable (Calm pathSet c) :=
  decidable_of_iff (c.toNat < 128 ∧ pathSet c = false ∧ c ≠ '\\')
    ⟨fun ⟨ascii, free, noBackslash⟩ => ⟨ascii, free, noBackslash⟩,
      fun ⟨ascii, free, noBackslash⟩ => ⟨ascii, free, noBackslash⟩⟩

/-- A segment that is read as it stands: it is no dot and no two dots, however they are spelled, and
no drive letter. -/
structure Canonical (pathSet : EncodeSet) (segment : List Char) : Prop where
  calm : forall c, c ∈ segment -> Calm pathSet c
  undivided : '/' ∉ segment
  notDot : isSingleDot segment = false
  notDots : isDoubleDot segment = false
  notDrive : isDriveLetter segment = false

/-- Segments that are read as they stand.  An empty one stands alone. -/
structure AreCanonical (pathSet : EncodeSet) (segments : List (List Char)) : Prop where
  canonical : forall segment, segment ∈ segments -> Canonical pathSet segment
  filled : segments = [[]] ∨ segments ≠ [] ∧ [] ∉ segments

/-- The text of the URL of a file on this machine. -/
def fileText (segments : List (List Char)) : String :=
  String.ofList ("file://".toList ++ segments.flatMap ('/' :: ·))

/-- The segments that names are written as.  The root has an empty one. -/
def encodedNames (nameSet : EncodeSet) (names : List Files.Path) : List (List Char) :=
  if names = [] then [[]] else names.map (encodeBytes nameSet)

/-- The path through the names that segments stand for. -/
def decodedPath (segments : List (List Char)) : Files.Path :=
  segments.flatMap (fun segment => Files.Path.slash :: decodeText segment)

/-- The characters that are encoded where a path is read, and those that are encoded in the name of
a file. -/
structure EncodeSet.Fits (pathSet nameSet : EncodeSet) : Prop where
  /-- Control characters, blanks and the marks that end a path are encoded. -/
  least : forall c, EncodeSet.path c = true -> pathSet c = true
  /-- Percent codes are not encoded again. -/
  codes : pathSet '%' = false ∧ forall value, value < 16 -> pathSet (upperHexDigit value) = false
  /-- In a name also what would end a segment or begin a percent code is encoded. -/
  covers : forall c, pathSet c = true ∨ c ∈ ['/', '%', '\\'] -> nameSet c = true

namespace Library

/-- What is supposed of a library: it follows the URL standard where it reads and writes the URLs of
files, and writes the names of a path as percent codes. -/
structure FollowsStandard {Link : Type} (library : Library Link) (pathSet nameSet : EncodeSet) :
    Prop where
  sets : EncodeSet.Fits pathSet nameSet
  /-- Where nothing has to be encoded, resolved or put right, a text is read as a URL that has this
  text. -/
  parse : forall segments, AreCanonical pathSet segments ->
    exists link, library.parse? (fileText segments) = some link ∧
      library.scheme link = "file" ∧ library.text link = fileText segments
  /-- A URL that was read from such a text leads to the path through the names that the segments
  stand for.  How this path is written is left open. -/
  toPath : forall segments link, AreCanonical pathSet segments ->
    library.parse? (fileText segments) = some link ->
    exists path, library.toPath? link = some path ∧
      path.components = (decodedPath segments).components
  /-- An absolute path has a URL, in which its names are encoded. -/
  ofPath : forall path : Files.Path, path.isAbsolute = true ->
    exists link, library.ofPath? path = some link ∧
      library.text link = fileText (encodedNames nameSet path.names)

end Library

/-! ## The segments of a path -/

section Segments

variable {pathSet nameSet : EncodeSet}

theorem encodeByte_calm (sets : EncodeSet.Fits pathSet nameSet) {byte : UInt8} {c : Char}
    (member : c ∈ encodeByte nameSet byte) : Calm pathSet c ∧ c ≠ '/' := by
  have digit : forall {value : Nat}, value < 16 ->
      Calm pathSet (upperHexDigit value) ∧ upperHexDigit value ≠ '/' := by
    intro value small
    have plain : forall value, value < 16 -> (upperHexDigit value).toNat < 128 ∧
        upperHexDigit value ≠ '\\' ∧ upperHexDigit value ≠ '/' := by decide
    rcases plain value small with ⟨ascii, noBackslash, undivided⟩
    exact ⟨⟨ascii, sets.codes.2 value small, noBackslash⟩, undivided⟩
  rcases encodeByte_cases nameSet byte with ⟨other, written, code, ascii, free⟩ |
    ⟨high, low, written, highSmall, lowSmall, _⟩
  · rw [written, List.mem_singleton] at member
    subst member
    have uncovered : forall d, pathSet d = true ∨ d ∈ ['/', '%', '\\'] -> c ≠ d := by
      rintro d covered rfl
      rw [sets.covers _ covered] at free
      cases free
    refine ⟨⟨by omega, ?_, uncovered _ (by simp)⟩, uncovered _ (by simp)⟩
    exact (Bool.not_eq_true _).mp (fun taken => uncovered c (Or.inl taken) rfl)
  · rw [written] at member
    simp only [List.mem_cons, List.not_mem_nil, or_false] at member
    rcases member with rfl | rfl | rfl
    · exact ⟨⟨by decide, sets.codes.1, by decide⟩, by decide⟩
    · exact digit highSmall
    · exact digit lowSmall

theorem encodeBytes_calm (sets : EncodeSet.Fits pathSet nameSet) {bytes : List UInt8} {c : Char}
    (member : c ∈ encodeBytes nameSet bytes) : Calm pathSet c ∧ c ≠ '/' := by
  rcases List.mem_flatMap.mp member with ⟨byte, _, inside⟩
  exact encodeByte_calm sets inside

theorem EncodeSet.Fits.coded (sets : EncodeSet.Fits pathSet nameSet) : nameSet '%' = true :=
  sets.covers '%' (Or.inr (by simp))

/-- A name that is no drive letter, and no dot or two, is encoded as a segment that is read as it
stands: otherwise it would be decoded as one of these. -/
theorem canonical_encodeBytes (sets : EncodeSet.Fits pathSet nameSet) {name : Files.Path}
    (regular : name.IsName) (noDrive : isDriveName name = false) :
    Canonical pathSet (encodeBytes nameSet name) := by
  have decoded := decodeText_encodeBytes sets.coded name
  refine ⟨fun _ member => (encodeBytes_calm sets member).1,
    fun member => (encodeBytes_calm sets member).2 rfl, ?_, ?_, ?_⟩
  · refine (Bool.not_eq_true _).mp (fun dot => regular.notDot ?_)
    rw [← decoded, decodeText_of_isSingleDot dot]
  · refine (Bool.not_eq_true _).mp (fun dots => regular.notDots ?_)
    rw [← decoded, decodeText_of_isDoubleDot dots]
  · refine (Bool.not_eq_true _).mp (fun drive => ?_)
    have named := isDriveName_of_isDriveLetter drive
    rw [decoded, noDrive] at named
    cases named

theorem canonical_nil : Canonical pathSet [] :=
  ⟨fun _ member => (List.not_mem_nil member).elim, List.not_mem_nil, rfl, rfl, rfl⟩

/-- The names of a path that has a URL of its own. -/
def Regular (path : Files.Path) : Prop :=
  forall name, name ∈ path.names -> name ≠ [Files.Path.dot, Files.Path.dot] ∧
    isDriveName name = false

instance (path : Files.Path) : Decidable (Regular path) :=
  inferInstanceAs (Decidable (forall name, name ∈ path.names -> _))

theorem areCanonical_encodedNames (sets : EncodeSet.Fits pathSet nameSet) {path : Files.Path}
    (regular : Regular path) : AreCanonical pathSet (encodedNames nameSet path.names) := by
  have isName : forall name, name ∈ path.names -> name.IsName := fun name member =>
    Files.Path.isName_of_mem_names member (regular name member).1
  rw [encodedNames]
  split
  · refine ⟨fun segment listed => ?_, Or.inl rfl⟩
    rw [List.mem_singleton.mp listed]
    exact canonical_nil
  next some_name =>
    have some_segment : path.names.map (encodeBytes nameSet) ≠ [] :=
      mt List.map_eq_nil_iff.mp some_name
    refine ⟨fun segment listed => ?_, Or.inr ⟨some_segment, fun listed => ?_⟩⟩
    · rcases List.mem_map.mp listed with ⟨name, member, rfl⟩
      exact canonical_encodeBytes sets (isName name member) (regular name member).2
    · rcases List.mem_map.mp listed with ⟨name, member, empty⟩
      exact (isName name member).nonempty (encodeBytes_eq_nil sets.coded empty)

/-- Decoding the segments that a path is written as leads through its names. -/
theorem components_decodedPath (coded : nameSet '%' = true) {path : Files.Path}
    (absolute : path.isAbsolute = true) :
    (decodedPath (encodedNames nameSet path.names)).components = path.components := by
  rw [Files.Path.components_eq_iff absolute, encodedNames]
  split
  next none =>
    rw [none]
    exact ⟨rfl, rfl⟩
  next some_name =>
    have decoded : decodedPath (path.names.map (encodeBytes nameSet)) =
        path.names.flatMap (Files.Path.slash :: ·) := by
      rw [decodedPath, List.flatMap_map]
      exact congrArg path.names.flatMap (funext fun name => by rw [decodeText_encodeBytes coded])
    rw [decoded]
    refine ⟨?_, Files.Path.names_flatMap_slash ?_⟩
    · rcases List.exists_cons_of_ne_nil some_name with ⟨name, rest, cut⟩
      rw [cut]
      rfl
    · intro name member
      rcases List.mem_filter.mp member with ⟨piece, led⟩
      exact ⟨Text.not_mem_of_mem_pieces piece, led⟩

end Segments

/-! ## The key of a path -/

namespace Library

variable {Link : Type} {library : Library Link} {pathSet nameSet : EncodeSet}

/-- The key of a path is the text of its encoded names. -/
theorem keyOfPath?_eq (standard : library.FollowsStandard pathSet nameSet) {path : Files.Path}
    (absolute : path.isAbsolute = true) :
    library.keyOfPath? path = some (fileText (encodedNames nameSet path.names)) := by
  rcases standard.ofPath path absolute with ⟨link, made, written⟩
  rw [keyOfPath?, made, Option.map_some, written]

/-- However the URL of a file is spelled, its key depends on the path alone. -/
theorem key_of_toPath? (standard : library.FollowsStandard pathSet nameSet) {link : Link}
    {path found : Files.Path} (absolute : path.isAbsolute = true)
    (scheme : library.scheme link = "file") (led : library.toPath? link = some found)
    (same : found.components = path.components) :
    library.key link = fileText (encodedNames nameSet path.names) := by
  rcases (Files.Path.components_eq_iff absolute).mp same with ⟨foundAbsolute, names⟩
  rcases standard.ofPath found foundAbsolute with ⟨canonical, made, written⟩
  rw [key, if_pos scheme, led, Option.bind_some, made, ← names]
  exact written

/-- The URL of a path is read back, and leads to the path. -/
theorem exists_link (standard : library.FollowsStandard pathSet nameSet) {path : Files.Path}
    (absolute : path.isAbsolute = true) (regular : Regular path) :
    exists link found, library.parse? (fileText (encodedNames nameSet path.names)) = some link ∧
      library.scheme link = "file" ∧
      library.text link = fileText (encodedNames nameSet path.names) ∧
      library.toPath? link = some found ∧ found.components = path.components := by
  have canonical := areCanonical_encodedNames standard.sets regular
  rcases standard.parse _ canonical with ⟨link, read, scheme, written⟩
  rcases standard.toPath _ _ canonical read with ⟨found, led, through⟩
  exact ⟨link, found, read, scheme, written, led,
    through.trans (components_decodedPath standard.sets.coded absolute)⟩

/-- The key of a path is the text of a URL that leads back to the path and has this key itself.  No
other path has this key, and every spelling of a URL of the path does.  So a document that was
loaded from the path has the key that the editor opens it under. -/
theorem key_leads_back (standard : library.FollowsStandard pathSet nameSet) {path : Files.Path}
    (absolute : path.isAbsolute = true) (regular : Regular path) :
    exists key link found,
      library.keyOfPath? path = some key ∧
      library.parse? key = some link ∧
      library.text link = key ∧
      library.toPath? link = some found ∧ found.components = path.components ∧
      library.key link = key ∧
      (forall other : Files.Path, other.isAbsolute = true -> Regular other ->
        library.keyOfPath? other = some key -> other.components = path.components) ∧
      (forall (spelling : Link) (other : Files.Path), library.scheme spelling = "file" ->
        library.toPath? spelling = some other -> other.components = path.components ->
        library.key spelling = key) ∧
      (forall (surroundings : Editor.Surroundings) (document : Document),
        surroundings.documentBy library path = some document -> document.uri = key) := by
  rcases exists_link standard absolute regular with ⟨link, found, read, scheme, written, led, back⟩
  have filed := keyOfPath?_eq standard absolute
  refine ⟨_, link, found, filed, read, written, led, back,
    key_of_toPath? standard absolute scheme led back, ?_, ?_, ?_⟩
  · intro other otherAbsolute otherRegular otherFiled
    rw [keyOfPath?_eq standard otherAbsolute] at otherFiled
    rcases exists_link standard otherAbsolute otherRegular with
      ⟨otherLink, otherFound, otherRead, _, _, otherLed, otherBack⟩
    -- Both keys are one text, which is read as one URL and leads to one path.
    rw [Option.some.inj otherFiled, read] at otherRead
    cases otherRead
    rw [led] at otherLed
    cases otherLed
    exact otherBack.symm.trans back
  · exact fun spelling other scheme led same => key_of_toPath? standard absolute scheme led same
  · intro surroundings document loaded
    rcases Option.bind_eq_some_iff.mp loaded with ⟨key, made, rest⟩
    rcases Option.bind_eq_some_iff.mp rest with ⟨text, _, built⟩
    cases built
    rw [filed] at made
    exact (Option.some.inj made).symm

end Library

/-! ## The library that is used -/

/-- Blanks and control characters would have been encoded. -/
theorem Calm.visible {c : Char} (calm : Calm EncodeSet.path c) : 0x20 < c.toNat := by
  have free := calm.free
  simp only [EncodeSet.path, EncodeSet.fragment, EncodeSet.controls, Bool.or_eq_false_iff,
    decide_eq_false_iff_not, List.mem_cons, not_or] at free
  have noBlank : c.toNat ≠ ' '.toNat := fun same => free.1.2.1 (Char.toNat_inj.mp same)
  have blank : ' '.toNat = 0x20 := rfl
  have noControl := free.1.1.1
  omega

theorem Calm.isPathChar {c : Char} (calm : Calm EncodeSet.path c) : isPathChar c = true := by
  have free := calm.free
  simp only [EncodeSet.path, Bool.or_eq_false_iff, decide_eq_false_iff_not, List.mem_cons,
    not_or] at free
  rw [Url.isPathChar, Bool.and_eq_true, bne_iff_ne, bne_iff_ne]
  exact ⟨free.2.2.1, free.2.1⟩

theorem Calm.not_isBreak {c : Char} (calm : Calm EncodeSet.path c) : isBreak c = false := by
  have visible := calm.visible
  rw [isBreak, Bool.or_eq_false_iff, Bool.or_eq_false_iff]
  refine ⟨⟨?_, ?_⟩, ?_⟩ <;> rw [beq_eq_false_iff_ne] <;> rintro rfl <;>
    exact absurd visible (by decide)

theorem unbroken_eq_self {text : List Char} (calm : forall c, c ∈ text -> Calm EncodeSet.path c) :
    unbroken text = text :=
  List.filter_eq_self.mpr (fun c member => by rw [(calm c member).not_isBreak, Bool.not_false])

theorem strip_eq_self {text : List Char} (calm : forall c, c ∈ text -> Calm EncodeSet.path c) :
    strip text = text := by
  have untouched : forall part : List Char, (forall c, c ∈ part -> Calm EncodeSet.path c) ->
      part.dropWhile (fun c => decide (c.toNat ≤ 0x20)) = part := by
    intro part calm
    cases part with
    | nil => rfl
    | cons c rest =>
        have visible := (calm c List.mem_cons_self).visible
        rw [List.dropWhile_cons_of_neg (by rw [decide_eq_true_eq]; omega)]
  rw [strip, untouched text calm,
    untouched text.reverse (fun c member => calm c (List.mem_reverse.mp member)),
    List.reverse_reverse]

theorem encodeText_eq_self {text : List Char} (calm : forall c, c ∈ text -> Calm EncodeSet.path c) :
    encodeText EncodeSet.path text = text := by
  induction text with
  | nil => rfl
  | cons c rest inductionHypothesis =>
      rcases List.forall_mem_cons.mp calm with ⟨here, later⟩
      have code : (UInt8.ofNat c.toNat).toNat = c.toNat :=
        Text.Utf8.toNat_ofNat (Nat.lt_trans here.ascii (by decide))
      have single : encodeByte EncodeSet.path (UInt8.ofNat c.toNat) = [c] := by
        rw [encodeByte, code, Char.ofNat_toNat, here.free, if_pos (by simpa using here.ascii)]
      have behind := inductionHypothesis later
      rw [encodeText, encodeBytes, Text.Utf8.encode] at behind ⊢
      rw [List.flatMap_cons, utf8EncodeChar_ascii here.ascii, List.singleton_append,
        List.flatMap_cons, single, behind, List.singleton_append]

namespace PathDraft

/-- Behind the first segment there are no drives, and a canonical segment is added as it is. -/
theorem addText_canonical {draft : PathDraft} {segment : List Char} (begun : draft.parts ≠ [])
    (canonical : Canonical EncodeSet.path segment) (isLast : Bool) :
    draft.addText .file isLast segment = { draft with parts := segment :: draft.parts } := by
  have noDrive : (if SchemeKind.file = .file ∧ draft.parts = [] then brokenDrive? segment
      else none) = none := if_neg (fun atDrive => begun atDrive.2)
  rw [addText, noDrive]
  dsimp only
  rw [unbroken_eq_self canonical.calm, encodeText_eq_self canonical.calm, canonical.notDots,
    canonical.notDot, if_neg Bool.false_ne_true, if_neg Bool.false_ne_true, add,
    if_neg (fun atDrive => begun atDrive.2.1)]

theorem addAll_canonical {segments : List (List Char)} {draft : PathDraft}
    (begun : draft.parts ≠ [])
    (canonical : forall segment, segment ∈ segments -> Canonical EncodeSet.path segment) :
    addAll .file draft segments =
      { draft with parts := segments.reverse ++ draft.parts } := by
  induction segments generalizing draft with
  | nil => rfl
  | cons segment rest inductionHypothesis =>
      rcases List.forall_mem_cons.mp canonical with ⟨here, later⟩
      cases rest with
      | nil => exact addText_canonical begun here true
      | cons next others =>
          rw [addAll.eq_3 _ _ _ _ (List.cons_ne_nil next others), addText_canonical begun here,
            inductionHypothesis (List.cons_ne_nil _ _) later,
            @List.reverse_cons _ segment (next :: others), List.append_assoc, List.singleton_append]

end PathDraft

/-- The text of the path that segments make is calm throughout. -/
theorem slashed_calm {segments : List (List Char)}
    (canonical : forall segment, segment ∈ segments -> Canonical EncodeSet.path segment) :
    forall c, c ∈ segments.flatMap ('/' :: ·) -> Calm EncodeSet.path c := by
  intro c member
  rcases List.mem_flatMap.mp member with ⟨segment, listed, inside⟩
  rcases List.mem_cons.mp inside with rfl | inside
  · decide
  · exact (canonical segment listed).calm c inside

theorem readSegments_slashed {segments : List (List Char)}
    (canonical : forall segment, segment ∈ segments -> Canonical EncodeSet.path segment)
    (trimmed : trimLeadingEmpty ([] :: segments) = segments) :
    readSegments .file (segments.flatMap ('/' :: ·)) = (segments, false) := by
  have slashed : (segments.flatMap ('/' :: ·)).map (fun c => if c = '\\' then '/' else c) =
      segments.flatMap ('/' :: ·) := by
    refine (List.map_congr_left ?_).trans (List.map_id _)
    intro c member
    exact if_neg (slashed_calm canonical c member).noBackslash
  have some_segment : segments ≠ [] := by
    rintro rfl
    cases trimmed
  -- The slash in front of the first segment ends an empty one, which is trimmed again.
  have first : PathDraft.addText .file ⟨[], false⟩ false [] = ⟨[[]], false⟩ := rfl
  have drafted : PathDraft.addAll .file ⟨[], false⟩ ([] :: segments) =
      ⟨segments.reverse ++ [[]], false⟩ := by
    rw [PathDraft.addAll.eq_3 _ _ _ _ some_segment, first,
      PathDraft.addAll_canonical (List.cons_ne_nil _ _) canonical]
  have led := Text.pieces_led (fun segment listed => (canonical segment listed).undivided)
  have special : SchemeKind.file.isSpecial = true := rfl
  rw [readSegments, if_pos special, slashed, led, drafted]
  dsimp only
  rw [if_pos rfl, List.reverse_append, List.reverse_reverse, List.reverse_singleton,
    List.singleton_append, trimmed]

/-- The URL of a file on this machine. -/
def onDisk (segments : List (List Char)) : Url :=
  ⟨"file".toList, some ⟨[], none, none⟩, .segments segments, none, none⟩

theorem fileUrl_slashed {segments : List (List Char)}
    (canonical : forall segment, segment ∈ segments -> Canonical EncodeSet.path segment)
    (trimmed : trimLeadingEmpty ([] :: segments) = segments) :
    fileUrl none (segments.flatMap ('/' :: ·)) = onDisk segments := by
  have whole : forall c, c ∈ segments.flatMap ('/' :: ·) -> isPathChar c = true :=
    fun c member => (slashed_calm canonical c member).isPathChar
  rw [fileUrl, List.takeWhile_eq_self_iff.mpr whole, List.dropWhile_eq_nil_iff.mpr whole,
    readSegments_slashed canonical trimmed]
  rfl

theorem render_onDisk (segments : List (List Char)) :
    (onDisk segments).render = fileText segments := by
  have text : (onDisk segments).text = "file://".toList ++ segments.flatMap ('/' :: ·) := by
    simp [Url.text, onDisk, Authority.text, Path.text]
  exact congrArg String.ofList text

theorem trimLeadingEmpty_of_areCanonical {segments : List (List Char)}
    (canonical : AreCanonical EncodeSet.path segments) :
    trimLeadingEmpty ([] :: segments) = segments := by
  rcases canonical.filled with rfl | ⟨some_segment, filled⟩
  · rfl
  · rcases List.exists_cons_of_ne_nil some_segment with ⟨segment, rest, rfl⟩
    cases segment with
    | nil => exact absurd List.mem_cons_self filled
    | cons c more => rfl

/-- The text of a file's URL is read as this URL. -/
theorem parse?_fileText {segments : List (List Char)}
    (canonical : AreCanonical EncodeSet.path segments) :
    parse? (fileText segments) = some (onDisk segments) := by
  have trimmed := trimLeadingEmpty_of_areCanonical canonical
  have letters : (fileText segments).toList = "file://".toList ++ segments.flatMap ('/' :: ·) :=
    String.toList_ofList
  have tested : "file://".toList.all (fun c => decide (Calm EncodeSet.path c)) = true := by rfl
  have front : forall c, c ∈ "file://".toList -> Calm EncodeSet.path c := fun c member =>
    of_decide_eq_true (List.all_eq_true.mp tested c member)
  have calm : forall c, c ∈ "file://".toList ++ segments.flatMap ('/' :: ·) ->
      Calm EncodeSet.path c :=
    List.forall_mem_append.mpr ⟨front, slashed_calm canonical.canonical⟩
  cases segments with
  | nil => cases trimmed
  | cons segment rest =>
      have scheme : scheme? ("file://".toList ++ (segment :: rest).flatMap ('/' :: ·)) =
          some ("file".toList, '/' :: '/' :: (segment :: rest).flatMap ('/' :: ·)) := rfl
      have kind : SchemeKind.of "file".toList = .file := by decide
      have file : readFile ('/' :: '/' :: (segment :: rest).flatMap ('/' :: ·)) =
          .ok (fileUrl none ((segment :: rest).flatMap ('/' :: ·))) := rfl
      rw [parse?, parse, letters, strip_eq_self calm, scheme]
      dsimp only
      rw [kind]
      dsimp only
      rw [file, fileUrl_slashed canonical.canonical trimmed]
      rfl

theorem closeDrive_cases (path : Files.Path) :
    closeDrive path = path ∨ closeDrive path = path ++ [Files.Path.slash] := by
  rw [closeDrive]
  split
  · split
    · exact Or.inr rfl
    · exact Or.inl rfl
  · exact Or.inl rfl

/-- A slash at the end makes no other path. -/
theorem components_closeDrive {path : Files.Path} (absolute : path.isAbsolute = true) :
    (closeDrive path).components = path.components := by
  rw [Files.Path.components_eq_iff absolute]
  rcases closeDrive_cases path with same | longer
  · rw [same]
    exact ⟨absolute, rfl⟩
  · rw [longer]
    refine ⟨?_, Files.Path.names_concat path⟩
    cases path with
    | nil => cases absolute
    | cons byte rest => exact absolute

theorem library_parse? (text : String) : library.parse? text = parse? text := rfl

theorem library_followsStandard :
    library.FollowsStandard EncodeSet.path EncodeSet.fileName where
  sets := by
    refine ⟨fun _ taken => taken, by decide, ?_⟩
    rintro c (taken | mark)
    · rw [EncodeSet.fileName, taken, Bool.true_or]
    · rw [EncodeSet.fileName, decide_eq_true mark, Bool.or_true]
  parse segments canonical := by
    refine ⟨onDisk segments, ?_, @String.ofList_toList "file", render_onDisk segments⟩
    rw [library_parse?, parse?_fileText canonical]
  toPath segments link canonical read := by
    rw [library_parse?, parse?_fileText canonical] at read
    cases read
    cases segments with
    | nil => cases trimLeadingEmpty_of_areCanonical canonical
    | cons segment rest => exact ⟨_, rfl, components_closeDrive rfl⟩
  ofPath path absolute := by
    refine ⟨onDisk (encodedNames EncodeSet.fileName path.names), ?_, render_onDisk _⟩
    show ofPath? path = _
    rw [ofPath?, if_pos absolute, encodedNames]
    cases path.names <;> rfl

/-- A path with a blank, a percent code for a dot, the marks that end a path, a drive with more
behind it, bytes that are no text, a letter of two bytes, and at its end what only looks like a
drive. -/
def crookedPath : Files.Path :=
  Files.Path.descend [Files.Path.slash] [.ofText "my project", .ofText "%2e",
    .ofText "a#b?c\\d", .ofText "c|d", [0xFF, 0x0A], .ofText "é.ghul", .ofText "abc:"]

theorem crookedPath_leads_back :
    exists url found,
      keyOfPath? crookedPath =
        some "file:///my%20project/%252e/a%23b%3Fc%5Cd/c|d/%FF%0A/%C3%A9.ghul/abc:" ∧
      parse? "file:///my%20project/%252e/a%23b%3Fc%5Cd/c|d/%FF%0A/%C3%A9.ghul/abc:" = some url ∧
      url.key = "file:///my%20project/%252e/a%23b%3Fc%5Cd/c|d/%FF%0A/%C3%A9.ghul/abc:" ∧
      url.toPath? = some found ∧ found.components = crookedPath.components := by
  have written : keyOfPath? crookedPath =
      some "file:///my%20project/%252e/a%23b%3Fc%5Cd/c|d/%FF%0A/%C3%A9.ghul/abc:" := by
    decide +kernel
  have absolute : crookedPath.isAbsolute = true := by decide +kernel
  rcases Library.key_leads_back library_followsStandard absolute (by decide +kernel) with
    ⟨key, url, found, filed, read, _, led, back, own, _⟩
  have same := Option.some.inj (written.symm.trans filed)
  rw [← same] at read own
  exact ⟨url, found, written, read, own, led, back⟩

end Url
end LanguageServer
