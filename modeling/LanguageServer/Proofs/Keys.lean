import LanguageServer.Proofs.Decoding
import LanguageServer.Url.FilePath

namespace LanguageServer

/-!
# The key of a document stands on one line

Documents are filed and sent under keys: the canonical spelling of the URL that an editor uses, or
of the URL that a path is given.  On the wire a uri is closed by a newline, so no key may hold one,
and none may be blank.

Where a URL is read, line ends inside it are dropped and control characters are encoded; the name
of a host is refused if it holds any.  `Flat` follows the text through the parser, one lemma for
each stage of it.  The name of a host needs the most care: it can come from percent codes, which
may well stand for a newline, and from Punycode, whose encoder copies the ASCII characters of a
label.
-/

/-- What a partial map gives, it gives for some item. -/
theorem mem_of_mapM_eq_some {Item Result : Type} {image? : Item -> Option Result}
    {items : List Item} {results : List Result} (mapped : items.mapM image? = some results)
    {result : Result} (member : result ∈ results) :
    exists item, item ∈ items ∧ image? item = some result := by
  induction items generalizing results with
  | nil =>
      cases mapped
      exact absurd member List.not_mem_nil
  | cons first rest inductionHypothesis =>
      rw [List.mapM_cons] at mapped
      rcases Option.bind_eq_some_iff.mp mapped with ⟨image, here, remaining⟩
      rcases Option.bind_eq_some_iff.mp remaining with ⟨images, later, whole⟩
      cases whole
      rcases List.mem_cons.mp member with same | behind
      · exact ⟨first, List.mem_cons_self, same ▸ here⟩
      · rcases inductionHypothesis later behind with ⟨item, inside, found⟩
        exact ⟨item, List.mem_cons_of_mem first inside, found⟩

/-- A partial map that succeeds gives something for every item. -/
theorem exists_of_mapM_eq_some {Item Result : Type} {image? : Item -> Option Result}
    {items : List Item} {results : List Result} (mapped : items.mapM image? = some results)
    {item : Item} (member : item ∈ items) : exists result, image? item = some result := by
  induction items generalizing results with
  | nil => exact absurd member List.not_mem_nil
  | cons first rest inductionHypothesis =>
      rw [List.mapM_cons] at mapped
      rcases Option.bind_eq_some_iff.mp mapped with ⟨image, here, remaining⟩
      rcases Option.bind_eq_some_iff.mp remaining with ⟨images, later, _⟩
      rcases List.mem_cons.mp member with same | behind
      · exact ⟨image, same ▸ here⟩
      · exact inductionHypothesis later behind

section Outcome

variable {Fault First Second : Type} {first : Except Fault First} {result : Second}

/-- A result comes from a first result. -/
theorem exists_of_bind_eq_ok {next : First -> Except Fault Second}
    (done : (first >>= next) = .ok result) :
    exists value, first = .ok value ∧ next value = .ok result := by
  cases first with
  | error fault => cases done
  | ok value => exact ⟨value, rfl, done⟩

theorem exists_of_map_eq_ok {image : First -> Second} (done : first.map image = .ok result) :
    exists value, first = .ok value ∧ image value = result := by
  cases first with
  | error fault => cases done
  | ok value => exact ⟨value, rfl, Except.ok.inj done⟩

end Outcome

namespace Text

theorem Flat.of_subset {text part : List Char} (flat : Flat text) (inside : part ⊆ text) :
    Flat part := fun newline => flat (inside newline)

@[simp] theorem flat_nil : Flat [] := List.not_mem_nil

@[simp] theorem flat_cons {c : Char} {text : List Char} :
    Flat (c :: text) ↔ c ≠ '\n' ∧ Flat text := by
  rw [Flat, Flat, List.mem_cons, not_or, Ne, eq_comm]

@[simp] theorem flat_append {text more : List Char} :
    Flat (text ++ more) ↔ Flat text ∧ Flat more := by
  rw [Flat, Flat, Flat, List.mem_append, not_or]

theorem flat_flatMap {Item : Type} {items : List Item} {write : Item -> List Char}
    (each : forall item, item ∈ items -> Flat (write item)) : Flat (items.flatMap write) := by
  intro newline
  rcases List.mem_flatMap.mp newline with ⟨item, inside, within⟩
  exact each item inside within

theorem flat_intercalate {between : Char} (visible : between ≠ '\n') {parts : List (List Char)}
    (each : forall part, part ∈ parts -> Flat part) : Flat (List.intercalate [between] parts) := by
  induction parts with
  | nil => exact flat_nil
  | cons first rest inductionHypothesis =>
      rcases List.forall_mem_cons.mp each with ⟨here, later⟩
      cases rest with
      | nil =>
          rw [List.intercalate_singleton]
          exact here
      | cons second others =>
          rw [List.intercalate_cons_cons]
          exact flat_append.mpr ⟨flat_append.mpr ⟨here, flat_cons.mpr ⟨visible, flat_nil⟩⟩,
            inductionHypothesis later⟩

theorem digitChar_ne_newline (value : Nat) : Nat.digitChar value ≠ '\n' := by
  grind [Nat.digitChar]

theorem toDigits_flat (base number : Nat) : Flat (Nat.toDigits base number) := by
  have along : forall fuel rest digits, Flat digits ->
      Flat (Nat.toDigitsCore base fuel rest digits) := by
    intro fuel
    induction fuel with
    | zero => exact fun _ _ flat => flat
    | succ fuel inductionHypothesis =>
        intro rest digits flat
        have longer : Flat (Nat.digitChar (rest % base) :: digits) :=
          flat_cons.mpr ⟨digitChar_ne_newline _, flat⟩
        rw [Nat.toDigitsCore]
        split
        · exact longer
        · exact inductionHypothesis _ _ longer
  exact along _ _ _ flat_nil

/-- What stands in a piece of a text stands in the text. -/
theorem Flat.of_mem_pieces {separator : Char} {text part : List Char} (flat : Flat text)
    (member : part ∈ pieces separator text) : Flat part := by
  intro newline
  refine flat ?_
  rw [← intercalate_pieces separator text]
  generalize pieces separator text = parts at member
  induction parts with
  | nil => exact absurd member List.not_mem_nil
  | cons first rest inductionHypothesis =>
      cases rest with
      | nil =>
          rw [List.intercalate_singleton]
          exact List.mem_singleton.mp member ▸ newline
      | cons second others =>
          rw [List.intercalate_cons_cons, List.mem_append, List.mem_append]
          rcases List.mem_cons.mp member with here | later
          · exact Or.inl (Or.inl (here ▸ newline))
          · exact Or.inr (inductionHypothesis later)

end Text

namespace Url

/-! ## Encoded text -/

theorem upperHexDigit_ne_newline {value : Nat} (small : value < 16) :
    upperHexDigit value ≠ '\n' := by
  revert value
  decide

/-- A class that contains the newline leaves none. -/
theorem encodeBytes_flat {set : EncodeSet} (covered : set '\n' = true) (bytes : List UInt8) :
    Text.Flat (encodeBytes set bytes) := by
  refine Text.flat_flatMap ?_
  intro byte _
  rw [encodeByte]
  split
  next free =>
    rw [Text.flat_cons]
    refine ⟨?_, Text.flat_nil⟩
    intro same
    rw [same, covered] at free
    simp at free
  next =>
    have high : byte.toNat / 16 < 16 := Nat.div_lt_of_lt_mul byte.toNat_lt
    have low : byte.toNat % 16 < 16 := Nat.mod_lt _ (by decide)
    simp only [Text.flat_cons, Text.flat_nil, and_true]
    exact ⟨by decide, upperHexDigit_ne_newline high, upperHexDigit_ne_newline low⟩

theorem encodeText_flat {set : EncodeSet} (covered : set '\n' = true) (text : List Char) :
    Text.Flat (encodeText set text) := encodeBytes_flat covered _

/-! ## Names of hosts -/

namespace Punycode

theorem digit_ne_newline (value : Nat) : digit value ≠ '\n' := by
  have other : forall code, code ≠ 10 -> Char.ofNat code ≠ '\n' := by
    intro code different same
    by_cases valid : code.isValidChar
    · have written : Char.ofNat code = Char.ofNatAux code valid := dif_pos valid
      exact different (congrArg Char.toNat (written.symm.trans same))
    · have replaced : Char.ofNat code = '\x00' := dif_neg valid
      exact absurd (replaced.symm.trans same) (by decide)
  rw [digit]
  split
  · exact other _ (by omega)
  · exact other _ (by omega)

theorem distanceDigits_flat (bias fuel k value : Nat) :
    Text.Flat (distanceDigits bias fuel k value) := by
  induction fuel generalizing k value with
  | zero => exact Text.flat_nil
  | succ fuel inductionHypothesis =>
      rw [distanceDigits]
      split
      · exact Text.flat_cons.mpr ⟨digit_ne_newline _, Text.flat_nil⟩
      · exact Text.flat_cons.mpr ⟨digit_ne_newline _, inductionHypothesis _ _⟩

theorem visit_flat {encoder : Encoder} (flat : Text.Flat encoder.output) (basic code : Nat)
    (c : Char) : Text.Flat (encoder.visit basic code c).output := by
  rw [Encoder.visit]
  split
  · exact flat
  split
  · exact Text.flat_append.mpr ⟨flat, distanceDigits_flat _ _ _ _⟩
  · exact flat

theorem encodeFrom_flat {encoder : Encoder} (flat : Text.Flat encoder.output) (label : List Char)
    (basic fuel code : Nat) : Text.Flat (encodeFrom label basic fuel code encoder).output := by
  have visits : forall (rest : List Char) (encoder : Encoder) (next : Nat),
      Text.Flat encoder.output ->
        Text.Flat (rest.foldl (Encoder.visit basic next) encoder).output := by
    intro rest
    induction rest with
    | nil => exact fun _ _ flat => flat
    | cons c others inductionHypothesis =>
        exact fun encoder next flat => inductionHypothesis _ next (visit_flat flat basic next c)
  induction fuel generalizing code encoder with
  | zero => exact flat
  | succ fuel inductionHypothesis =>
      rw [encodeFrom]
      split
      · exact flat
      next next _ =>
        refine inductionHypothesis ?_ (next + 1)
        exact visits label _ next flat

/-- The encoder copies the ASCII characters of a label and adds digits. -/
theorem encode_flat {label : List Char} (flat : Text.Flat label) : Text.Flat (encode label) := by
  refine encodeFrom_flat ?_ _ _ _ _
  dsimp only
  split
  · exact Text.flat_nil
  · refine Text.flat_append.mpr ⟨flat.of_subset List.filter_sublist.subset, ?_⟩
    decide

end Punycode

namespace Domain

/-- The ASCII form of a label that stands in a flat text is flat. -/
theorem labelText?_flat {label meaning written : List Char} (flat : Text.Flat label)
    (understood : meaning? label = some meaning) (spelled : labelText? meaning = some written) :
    Text.Flat written := by
  rw [meaning?] at understood
  split at understood
  next marked =>
    -- The meaning is not ASCII, so it is spelled as the label was.
    dsimp only at understood
    split at understood
    · cases understood
    cases read : Punycode.decode? (label.drop mark.length) with
    | none =>
        rw [read] at understood
        cases understood
    | some decoded =>
        rw [read] at understood
        dsimp only at understood
        split at understood
        next sound =>
          cases understood
          simp only [Bool.and_eq_true, Bool.not_eq_true', decide_eq_true_eq] at sound
          rcases sound with ⟨⟨⟨⟨foreign, _⟩, _⟩, _⟩, same⟩
          rw [labelText?, if_neg (Bool.eq_false_iff.mp foreign)] at spelled
          split at spelled
          · cases spelled
          · cases spelled
            rw [same]
            exact Text.flat_append.mpr ⟨by decide, flat.of_subset (List.drop_subset _ _)⟩
        next => cases understood
  next =>
    cases understood
    rw [labelText?] at spelled
    split at spelled
    · cases spelled
      exact flat
    split at spelled
    · cases spelled
    · cases spelled
      exact Text.flat_append.mpr ⟨by decide, Punycode.encode_flat flat⟩

/-- The ASCII form of a name is flat, whatever the name stands for. -/
theorem ascii?_flat {name written : List Char} (spelled : ascii? name = some written) :
    Text.Flat written := by
  rw [ascii?] at spelled
  rcases Option.bind_eq_some_iff.mp spelled with ⟨folded, _, composed⟩
  rcases Option.bind_eq_some_iff.mp composed with ⟨labels, understood, rest⟩
  split at rest
  · cases rest
  next free =>
    rcases Option.bind_eq_some_iff.mp rest with ⟨texts, each, joined⟩
    cases joined
    have flat : Text.Flat (Text.composed folded.flatten) := by
      intro newline
      simp only [Bool.or_eq_true, not_or] at free
      exact free.1.1 (List.any_eq_true.mpr ⟨_, newline, by decide⟩)
    refine Text.flat_intercalate (by decide) ?_
    intro text member
    rcases mem_of_mapM_eq_some each member with ⟨meaning, inside, given⟩
    rcases mem_of_mapM_eq_some understood inside with ⟨label, piece, meant⟩
    exact labelText?_flat (flat.of_mem_pieces piece) meant given

end Domain

namespace Host

theorem ipv4_text_flat (address : Nat) : Text.Flat (ipv4 address).text := by
  refine Text.flat_intercalate (by decide) ?_
  intro part member
  rcases List.mem_map.mp member with ⟨place, _, same⟩
  rw [← same]
  exact Text.toDigits_flat 10 _

theorem ipv6_text_flat (groups : List Nat) : Text.Flat (ipv6 groups).text := by
  have written : forall some_groups : List Nat,
      Text.Flat (List.intercalate [':'] (some_groups.map hexText)) := by
    intro some_groups
    refine Text.flat_intercalate (by decide) ?_
    intro part member
    rcases List.mem_map.mp member with ⟨group, _, same⟩
    rw [← same]
    exact Text.toDigits_flat 16 group
  have inner : Text.Flat (ipv6Text groups) := by
    rw [ipv6Text]
    dsimp only
    split
    · exact written groups
    · exact Text.flat_append.mpr ⟨Text.flat_append.mpr ⟨written _, by decide⟩, written _⟩
  exact Text.flat_cons.mpr ⟨by decide, Text.flat_append.mpr ⟨inner, by decide⟩⟩

theorem bracketed_flat {text : List Char} {host : Host} (read : bracketed text = .ok host) :
    Text.Flat host.text := by
  rw [bracketed] at read
  split at read
  · cases read
    exact ipv6_text_flat _
  · cases read

theorem special_flat {text : List Char} {host : Host} (read : special text = .ok host) :
    Text.Flat host.text := by
  rw [special] at read
  split at read
  · exact bracketed_flat read
  split at read
  · cases read
  next name named =>
    rcases Option.bind_eq_some_iff.mp named with ⟨_, _, spelled⟩
    split at read
    · cases read
    split at read
    · split at read
      · cases read
        exact ipv4_text_flat _
      · cases read
    · cases read
      exact Domain.ascii?_flat spelled

theorem other_flat {text : List Char} {host : Host} (read : other text = .ok host) :
    Text.Flat host.text := by
  rw [other] at read
  split at read
  · exact bracketed_flat read
  split at read
  · cases read
  · cases read
    exact encodeText_flat (by decide) text

end Host

/-! ## Paths -/

theorem unbroken_flat (text : List Char) : Text.Flat (unbroken text) := by
  intro newline
  exact absurd (List.mem_filter.mp newline).2 (by decide)

theorem isAlpha_ne_newline {c : Char} (letter : c.isAlpha = true) : c ≠ '\n' := by
  intro same
  rw [same] at letter
  exact absurd letter (by decide)

namespace PathDraft

/-- All segments so far are flat. -/
def Flat (draft : PathDraft) : Prop := forall part, part ∈ draft.parts -> Text.Flat part

variable {draft : PathDraft}

theorem shorten_subset (parts : List (List Char)) : shorten parts ⊆ parts := by
  cases parts with
  | nil => exact fun part member => member
  | cons last earlier =>
      rw [shorten]
      split
      · exact fun part member => member
      · exact List.subset_cons_self last earlier

theorem Flat.add (flat : draft.Flat) (kind : SchemeKind) {segment : List Char}
    (flatSegment : Text.Flat segment) : (draft.add kind segment).Flat := by
  rw [PathDraft.add]
  split
  · exact List.forall_mem_singleton.mpr (Text.flat_append.mpr
      ⟨flatSegment.of_subset (List.take_subset _ _), by decide⟩)
  · exact List.forall_mem_cons.mpr ⟨flatSegment, flat⟩

theorem brokenDrive?_flat {text drive rest : List Char}
    (broken : brokenDrive? text = some (drive, rest)) : Text.Flat drive := by
  rw [brokenDrive?] at broken
  split at broken
  · split at broken
    next drives =>
      cases broken
      rw [Bool.and_eq_true] at drives
      exact Text.flat_cons.mpr ⟨isAlpha_ne_newline drives.1, by decide⟩
    next => cases broken
  · cases broken

theorem Flat.addText (flat : draft.Flat) (kind : SchemeKind) (isLast : Bool) (text : List Char) :
    (draft.addText kind isLast text).Flat := by
  have encoded : forall text, Text.Flat (encodeText EncodeSet.path text) :=
    encodeText_flat (by decide)
  have ending : forall part, part ∈ (if isLast then [[]] else []) -> Text.Flat part := by
    intro part member
    cases isLast with
    | false => exact absurd member List.not_mem_nil
    | true => exact List.mem_singleton.mp member ▸ Text.flat_nil
  rw [PathDraft.addText]
  dsimp only
  split
  next drive rest broken =>
    split at broken
    · exact List.forall_mem_cons.mpr ⟨encoded rest,
        List.forall_mem_singleton.mpr (brokenDrive?_flat broken)⟩
    · cases broken
  next =>
    split
    · exact List.forall_mem_append.mpr ⟨ending,
        fun part member => flat part (shorten_subset _ member)⟩
    split
    · exact List.forall_mem_append.mpr ⟨ending, flat⟩
    · exact flat.add kind (encoded _)

theorem Flat.addAll (flat : draft.Flat) (kind : SchemeKind) (texts : List (List Char)) :
    (addAll kind draft texts).Flat := by
  induction texts generalizing draft with
  | nil => exact flat
  | cons text rest inductionHypothesis =>
      cases rest with
      | nil => exact flat.addText kind true text
      | cons next others => exact inductionHypothesis (flat.addText kind false text)

end PathDraft

theorem trimLeadingEmpty_subset (parts : List (List Char)) : trimLeadingEmpty parts ⊆ parts := by
  fun_induction trimLeadingEmpty parts with
  | case1 next rest inductionHypothesis =>
      exact fun part member => List.mem_cons_of_mem [] (inductionHypothesis member)
  | case2 parts _ => exact fun part member => member

theorem readSegments_flat (kind : SchemeKind) (text : List Char) :
    Text.Flat (Path.segments (readSegments kind text).1).text := by
  refine Text.flat_flatMap ?_
  intro part member
  refine Text.flat_cons.mpr ⟨by decide, ?_⟩
  have start : PathDraft.Flat ⟨[], false⟩ := fun part member => absurd member List.not_mem_nil
  rw [readSegments] at member
  dsimp only at member
  split at member
  · exact start.addAll kind _ part (List.mem_reverse.mp (trimLeadingEmpty_subset _ member))
  · exact start.addAll kind _ part (List.mem_reverse.mp member)

theorem readPathAfter_flat (kind : SchemeKind) (text : List Char) :
    Text.Flat (Path.segments (readPathAfter kind text).1).text := by
  rw [readPathAfter]
  split
  · exact readSegments_flat kind _
  split
  · exact Text.flat_nil
  · exact readSegments_flat kind _

/-! ## Authorities -/

theorem readCredentials_flat (userinfo : List Char) : Text.Flat (readCredentials userinfo) := by
  have encoded : forall text, Text.Flat (encodeText EncodeSet.userinfo text) :=
    encodeText_flat (by decide)
  have marked : forall named, Text.Flat named ->
      Text.Flat (if named.isEmpty then [] else named ++ ['@']) := by
    intro named flat
    split
    · exact Text.flat_nil
    · exact Text.flat_append.mpr ⟨flat, by decide⟩
  refine marked _ ?_
  split
  · exact encoded _
  · exact Text.flat_append.mpr ⟨encoded _, Text.flat_cons.mpr ⟨by decide, encoded _⟩⟩

theorem readHost_flat {kind : SchemeKind} {text : List Char} {hasPort : Bool} {host : Host}
    (read : readHost kind text hasPort = .ok (some host)) : Text.Flat host.text := by
  rw [readHost] at read
  split at read
  · split at read
    · cases read
    · cases read
  split at read
  · rcases exists_of_map_eq_ok read with ⟨special, found, same⟩
    cases same
    exact Host.special_flat found
  · rcases exists_of_map_eq_ok read with ⟨other, found, same⟩
    cases same
    exact Host.other_flat found

theorem Authority.text_flat {authority : Authority} (credentials : Text.Flat authority.credentials)
    (host : forall host, authority.host = some host -> Text.Flat host.text) :
    Text.Flat authority.text := by
  rw [Authority.text]
  refine Text.flat_append.mpr ⟨Text.flat_append.mpr ⟨credentials, ?_⟩, ?_⟩
  · split
    next name named => exact host name named
    next => exact Text.flat_nil
  · split
    · exact Text.flat_cons.mpr ⟨by decide, Text.toDigits_flat 10 _⟩
    · exact Text.flat_nil

theorem readAuthority_flat {kind : SchemeKind} {scheme text rest : List Char} {followed : Bool}
    {authority : Authority}
    (read : readAuthority kind scheme text followed = .ok (authority, rest)) :
    Text.Flat authority.text := by
  rw [readAuthority] at read
  dsimp only at read
  split at read
  · cases read
  rcases exists_of_bind_eq_ok read with ⟨host, found, afterHost⟩
  rcases exists_of_bind_eq_ok afterHost with ⟨port, _, afterPort⟩
  split at afterPort
  · cases afterPort
  cases afterPort
  refine Authority.text_flat (readCredentials_flat _) ?_
  intro name named
  cases named
  exact readHost_flat found

/-! ## URLs -/

/-- Every part of the URL is flat. -/
structure Flat (url : Url) : Prop where
  scheme : Text.Flat url.scheme
  authority : forall authority, url.authority = some authority -> Text.Flat authority.text
  path : Text.Flat url.path.text
  query : forall query, url.query = some query -> Text.Flat query
  fragment : forall fragment, url.fragment = some fragment -> Text.Flat fragment

theorem guardedPath_flat {path : List Char} (flat : Text.Flat path) :
    Text.Flat (guardedPath path) := by
  unfold guardedPath
  split
  · exact Text.flat_cons.mpr ⟨by decide, Text.flat_cons.mpr ⟨by decide, flat⟩⟩
  · exact flat

theorem Flat.text {url : Url} (flat : url.Flat) : Text.Flat url.text := by
  rw [Url.text]
  refine Text.flat_append.mpr ⟨Text.flat_append.mpr ⟨Text.flat_append.mpr ⟨flat.scheme,
    Text.flat_cons.mpr ⟨by decide, ?_⟩⟩, ?_⟩, ?_⟩
  · split
    next authority given =>
      exact Text.flat_append.mpr ⟨Text.flat_cons.mpr ⟨by decide,
        Text.flat_cons.mpr ⟨by decide, flat.authority authority given⟩⟩, flat.path⟩
    next => exact guardedPath_flat flat.path
  · split
    next query given => exact Text.flat_cons.mpr ⟨by decide, flat.query query given⟩
    next => exact Text.flat_nil
  · split
    next fragment given => exact Text.flat_cons.mpr ⟨by decide, flat.fragment fragment given⟩
    next => exact Text.flat_nil

theorem readTail_flat (kind : SchemeKind) (text : List Char) :
    (forall query, (readTail kind text).1 = some query -> Text.Flat query) ∧
      forall fragment, (readTail kind text).2 = some fragment -> Text.Flat fragment := by
  have querySet : (if kind.isSpecial then EncodeSet.specialQuery else EncodeSet.query) '\n' =
      true := by
    cases kind <;> decide
  have encoded : forall text, Text.Flat (encodeText EncodeSet.fragment text) :=
    encodeText_flat (by decide)
  rw [readTail]
  dsimp only
  split
  · refine ⟨fun query found => Option.some.inj found ▸ encodeText_flat querySet _, ?_⟩
    intro fragment found
    dsimp only at found
    split at found
    · exact Option.some.inj found ▸ encoded _
    · cases found
  · refine ⟨fun query found => (by cases found), ?_⟩
    intro fragment found
    dsimp only at found
    split at found
    · exact Option.some.inj found ▸ encoded _
    · cases found

theorem fileUrl_flat {host : Option Host} (flat : forall name, host = some name ->
    Text.Flat name.text) (text : List Char) : (fileUrl host text).Flat where
  scheme := show Text.Flat "file".toList by decide
  authority := by
    intro authority given
    cases given
    exact Authority.text_flat Text.flat_nil
      (fun name named => flat name (Option.ite_none_left_eq_some.mp named).2)
  path := readSegments_flat .file _
  query := (readTail_flat .file _).1
  fragment := (readTail_flat .file _).2

theorem fileHost_flat {text : List Char} {host : Host} (read : fileHost text = .ok (some host)) :
    Text.Flat host.text := by
  rw [fileHost] at read
  split at read
  · cases read
  · rcases exists_of_map_eq_ok read with ⟨special, found, same⟩
    split at same
    · cases same
    · cases same
      exact Host.special_flat found

theorem readFile_flat {text : List Char} {url : Url} (read : readFile text = .ok url) :
    url.Flat := by
  have nameless : forall name, none = some name -> Text.Flat (Host.text name) :=
    fun name named => (by cases named)
  rw [readFile] at read
  dsimp only at read
  split at read
  · cases read
    exact fileUrl_flat nameless _
  split at read
  · cases read
    exact fileUrl_flat nameless _
  split at read
  · cases read
    exact fileUrl_flat nameless _
  · rcases exists_of_map_eq_ok read with ⟨host, found, same⟩
    cases same
    refine fileUrl_flat ?_ _
    intro name named
    exact fileHost_flat (named ▸ found)

theorem readAfterSlashes_flat {kind : SchemeKind} {scheme text : List Char} {url : Url}
    (flat : Text.Flat scheme) (read : readAfterSlashes kind scheme text = .ok url) : url.Flat := by
  rw [readAfterSlashes] at read
  rcases exists_of_bind_eq_ok read with ⟨⟨authority, leftOver⟩, found, done⟩
  cases done
  exact
    { scheme := flat
      authority := fun other given => Option.some.inj given ▸ readAuthority_flat found
      path := readPathAfter_flat kind _
      query := (readTail_flat kind _).1
      fragment := (readTail_flat kind _).2 }

theorem readOther_flat {scheme text : List Char} {url : Url} (flat : Text.Flat scheme)
    (read : readOther scheme text = .ok url) : url.Flat := by
  revert read
  fun_cases readOther scheme text with
  | case1 rest => exact readAfterSlashes_flat flat
  | case2 =>
      intro read
      cases read
      refine
        { scheme := flat
          authority := fun other given => (by cases given)
          path := ?_
          query := (readTail_flat .other _).1
          fragment := (readTail_flat .other _).2 }
      dsimp only
      split
      · exact readSegments_flat .other _
      · exact encodeText_flat (by decide) _

theorem toLower_ne_newline {c : Char} (visible : c ≠ '\n') : c.toLower ≠ '\n' := by
  intro same
  by_cases capital : c.val ≥ 'A'.val ∧ c.val ≤ 'Z'.val
  · have moved : c.toLower.val = c.val + 32 := congrArg Char.val (dif_pos capital)
    have least : 65 ≤ c.val.toNat := capital.1
    have greatest : c.val.toNat ≤ 90 := capital.2
    have code := congrArg UInt32.toNat moved
    rw [same, UInt32.toNat_add, show (32 : UInt32).toNat = 32 from rfl,
      show '\n'.val.toNat = 10 from rfl] at code
    omega
  · have kept : c.toLower = c := dif_neg capital
    exact visible (kept.symm.trans same)

theorem scheme?_flat {text scheme rest : List Char} (read : scheme? text = some (scheme, rest)) :
    Text.Flat scheme := by
  have lower : forall name, Text.Flat name -> Text.Flat (name.map Char.toLower) := by
    intro name flat newline
    rcases List.mem_map.mp newline with ⟨c, inside, same⟩
    exact toLower_ne_newline (fun equal => flat (equal ▸ inside)) same
  rw [scheme?] at read
  split at read
  next named _ =>
    split at read
    · cases read
      exact lower _ (unbroken_flat _)
    · cases read
  next => cases read

/-- A URL that was read stands on one line. -/
theorem parse_flat {text : String} {url : Url} (read : parse text = .ok url) : url.Flat := by
  rw [parse] at read
  split at read
  · cases read
  next scheme rest found =>
    have flat := scheme?_flat found
    split at read
    · exact readFile_flat read
    · exact readAfterSlashes_flat flat read
    · exact readOther_flat flat read

/-! ## Keys -/

theorem ofPath?_flat {path : Files.Path} {url : Url} (named : ofPath? path = some url) :
    url.Flat := by
  rw [ofPath?] at named
  split at named
  · cases named
    refine
      { scheme := show Text.Flat "file".toList by decide
        authority := fun authority given => Option.some.inj given ▸ Text.flat_nil
        path := Text.flat_flatMap ?_
        query := fun query given => (by cases given)
        fragment := fun fragment given => (by cases given) }
    intro part member
    refine Text.flat_cons.mpr ⟨by decide, ?_⟩
    split at member
    · exact List.mem_singleton.mp member ▸ Text.flat_nil
    · rcases List.mem_map.mp member with ⟨name, _, same⟩
      exact same ▸ encodeBytes_flat (by decide) name
  · cases named

/-- The uri is a key: that of a URL that was read, or that of a path. -/
def IsKey (uri : String) : Prop :=
  (exists text url, parse text = .ok url ∧ url.key = uri) ∨ exists path, keyOfPath? path = some uri

/-- There is always the colon of the scheme. -/
theorem text_ne_nil (url : Url) : url.text ≠ [] := by
  simp [text]

theorem Flat.render_addressed {url : Url} (flat : url.Flat) : Wire.Addressed url.render := by
  have characters : url.render.toList = url.text := String.toList_ofList
  constructor
  · intro blank
    rw [blank] at characters
    exact text_ne_nil url characters.symm
  · rw [Wire.OneLine, characters]
    exact flat.text

/-- A key can be told from a blank line, and it ends where its line ends. -/
theorem IsKey.addressed {uri : String} (isKey : IsKey uri) : Wire.Addressed uri := by
  rcases isKey with ⟨text, url, read, same⟩ | ⟨path, named⟩
  · rw [← same, key, Library.key]
    cases canonical : (if library.scheme url = "file" then
        (library.toPath? url).bind library.ofPath? else none) with
    | none => exact (parse_flat read).render_addressed
    | some other =>
        have named : (library.toPath? url).bind library.ofPath? = some other := by
          split at canonical
          · exact canonical
          · cases canonical
        rcases Option.bind_eq_some_iff.mp named with ⟨path, _, found⟩
        exact (ofPath?_flat found).render_addressed
  · rcases Option.map_eq_some_iff.mp named with ⟨url, found, same⟩
    rw [← same]
    exact (ofPath?_flat found).render_addressed

end Url
end LanguageServer
