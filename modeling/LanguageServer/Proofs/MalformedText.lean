import LanguageServer.Proofs.Transmission

namespace LanguageServer

/-!
# Bytes that are not UTF-8

Bytes that are no character are replaced.  Which of them are replaced together is said here without
the decoder: where no character stands, the longest front that begins some character, or a single
byte if there is no such front.  The decoder reads every sequence of bytes in this way, and there is
no second way to read it.

A replaced part never holds a byte of the ASCII range, since such a byte is a character wherever it
stands.  So a newline or a separator ends the part before it, and cutting the bytes there and
decoding the pieces gives the same as decoding everything and cutting the text.
-/

namespace Text

/-! ## The first piece -/

section

variable {Symbol : Type} [BEq Symbol] [LawfulBEq Symbol] {separator : Symbol}
  {rest first : List Symbol} {others : List (List Symbol)}

/-- Text without a separator goes on in the first piece behind it. -/
theorem pieces_append_of_not_mem {front : List Symbol} (absent : separator ∉ front)
    (cut : pieces separator rest = first :: others) :
    pieces separator (front ++ rest) = (front ++ first) :: others := by
  induction front with
  | nil => exact cut
  | cons head tail inductionHypothesis =>
      have different : ¬(head == separator) = true := by
        intro same
        exact absent (List.mem_cons.mpr (Or.inl (eq_of_beq same).symm))
      have behind := inductionHypothesis (fun member => absent (List.mem_cons_of_mem head member))
      rw [List.cons_append, pieces, if_neg different, behind, List.cons_append]

theorem prefix_of_pieces (cut : pieces separator rest = first :: others) : first <+: rest := by
  have whole := intercalate_pieces separator rest
  rw [cut] at whole
  rw [← whole]
  cases others with
  | nil => simp [List.intercalate]
  | cons second more => simp [List.intercalate]

end

namespace Utf8

/-! ## What is replaced -/

/-- The bytes are the front of a character, or all of it. -/
def Begins (part : List UInt8) : Prop :=
  exists c : Char, part <+: String.utf8EncodeChar c

/-- A part that is replaced, and what follows it.  Nothing at this point is a character, and no
longer front begins one. -/
structure IsSubpart (part rest : List UInt8) : Prop where
  nonempty : part ≠ []
  unconvertible : forall c : Char, ¬ String.utf8EncodeChar c <+: part ++ rest
  single_or_begins : part.length = 1 ∨ Begins part
  longest : forall front, front <+: part ++ rest -> Begins front -> front.length ≤ part.length

/-- Bytes and the text they are read as. -/
inductive Reads : List UInt8 -> List Char -> Prop where
  | nil : Reads [] []
  | character (c : Char) {rest : List UInt8} {text : List Char} (reads : Reads rest text) :
      Reads (String.utf8EncodeChar c ++ rest) (c :: text)
  | replaced {part rest : List UInt8} {text : List Char} (subpart : IsSubpart part rest)
      (reads : Reads rest text) : Reads (part ++ rest) (replacement :: text)

/-! ## Encoded characters -/

theorem toNat_ofNat_of_valid {code : Nat} (valid : code.isValidChar) :
    (Char.ofNat code).val.toNat = code :=
  congrArg (fun c : Char => c.val.toNat) (dif_pos valid)

/-- Two characters in front of anything are told apart. -/
theorem encodeChar_append_inj {c d : Char} {rest more : List UInt8}
    (same : String.utf8EncodeChar c ++ rest = String.utf8EncodeChar d ++ more) :
    c = d ∧ rest = more := by
  have texts := congrArg (decodeFrom .ready) same
  rw [decodeFrom_char, decodeFrom_char, List.cons.injEq] at texts
  rcases texts.1 with rfl
  exact ⟨rfl, List.append_cancel_left same⟩

theorem eq_of_encodeChar_prefix {c d : Char}
    (front : String.utf8EncodeChar c <+: String.utf8EncodeChar d) : c = d := by
  rcases front with ⟨rest, whole⟩
  rw [← List.append_nil (String.utf8EncodeChar d)] at whole
  exact (encodeChar_append_inj whole).1

theorem encodeChar_ne_nil (c : Char) : String.utf8EncodeChar c ≠ [] := by
  intro empty
  have text := decodeFrom_char c []
  rw [empty] at text
  cases text

theorem encodeChar_ascii {byte : UInt8} (ascii : byte.toNat < 128) :
    String.utf8EncodeChar (Char.ofNat byte.toNat) = [byte] := by
  have valid : byte.toNat.isValidChar := Or.inl (by omega)
  have code := toNat_ofNat_of_valid valid
  rw [String.utf8EncodeChar, code, if_pos (by omega), UInt8.ofNat_toNat]

theorem encode_cons (c : Char) (text : List Char) :
    encode (c :: text) = String.utf8EncodeChar c ++ encode text :=
  List.flatMap_cons

/-! ## Bytes that complete a character -/

/-- As many bytes as are missing: the first of them in a range of its own, the others in the range
of all continuation bytes. -/
def Completes : Nat -> UInt8 -> UInt8 -> List UInt8 -> Prop
  | 0, _, _, tail => tail = []
  | missing + 1, least, greatest, tail =>
      exists byte more, tail = byte :: more ∧ (least ≤ byte ∧ byte ≤ greatest) ∧
        Completes missing 0x80 0xBF more

/-- The value of a character, from the value gathered so far. -/
def gather (value : Nat) (tail : List UInt8) : Nat :=
  tail.foldl (fun gathered byte => gathered * 64 + (byte.toNat - 0x80)) value

theorem gather_cons (value : Nat) (byte : UInt8) (tail : List UInt8) :
    gather value (byte :: tail) = gather (value * 64 + (byte.toNat - 0x80)) tail := by
  rw [gather, List.foldl_cons, gather]

/-- The machine has read a part of a character, and its state says exactly what can follow. -/
structure Awaits (part : List UInt8) (missing : Nat) (least greatest : UInt8) (value : Nat) :
    Prop where
  nonempty : part ≠ []
  least_le_greatest : least ≤ greatest
  encoded : forall tail, Completes missing least greatest tail ->
    part ++ tail = String.utf8EncodeChar (Char.ofNat (gather value tail))
  completed : forall c tail, part ++ tail = String.utf8EncodeChar c ->
    Completes missing least greatest tail

theorem exists_completes {least greatest : UInt8} (ordered : least ≤ greatest) (missing : Nat) :
    exists tail, Completes missing least greatest tail := by
  induction missing generalizing least greatest with
  | zero => exact ⟨[], rfl⟩
  | succ missing inductionHypothesis =>
      have continuation : (0x80 : UInt8) ≤ 0xBF := by decide
      rcases inductionHypothesis continuation with ⟨more, completes⟩
      exact ⟨least :: more, least, more, rfl, ⟨UInt8.le_refl least, ordered⟩, completes⟩

namespace Awaits

variable {part rest : List UInt8} {missing value : Nat} {least greatest byte : UInt8}

/-- One more byte of the character. -/
theorem next (awaits : Awaits part (missing + 1) least greatest value)
    (inRange : least ≤ byte ∧ byte ≤ greatest) :
    Awaits (part ++ [byte]) missing 0x80 0xBF (value * 64 + (byte.toNat - 0x80)) where
  nonempty := by simp
  least_le_greatest := by decide
  encoded := by
    intro tail completes
    have encoded := awaits.encoded (byte :: tail) ⟨byte, tail, rfl, inRange, completes⟩
    rw [List.append_assoc, List.singleton_append, encoded, gather_cons]
  completed := by
    intro c tail whole
    rw [List.append_assoc] at whole
    rcases awaits.completed c ([byte] ++ tail) whole with ⟨first, more, same, _, completes⟩
    rcases List.cons.inj same with ⟨rfl, rfl⟩
    exact completes

theorem begins (awaits : Awaits part missing least greatest value) : Begins part := by
  rcases exists_completes awaits.least_le_greatest missing with ⟨tail, completes⟩
  exact ⟨_, tail, awaits.encoded tail completes⟩

/-- A part that is not continued is replaced as a whole. -/
theorem isSubpart (awaits : Awaits part (missing + 1) least greatest value)
    (stops : forall byte more, rest = byte :: more -> ¬ (least ≤ byte ∧ byte ≤ greatest)) :
    IsSubpart part rest := by
  have longest : forall front, front <+: part ++ rest -> Begins front ->
      front.length ≤ part.length := by
    intro front isFront begins
    apply Nat.le_of_not_lt
    intro longer
    rcases List.prefix_of_prefix_length_le (List.prefix_append part rest) isFront
        (Nat.le_of_lt longer) with ⟨more, rfl⟩
    rcases begins with ⟨c, tail, whole⟩
    rw [List.append_assoc] at whole
    rcases awaits.completed c (more ++ tail) whole with ⟨byte, others, continued, inRange, _⟩
    -- The byte that continues the part is the next one of the rest.
    cases more with
    | nil => simp at longer
    | cons head others' =>
        rcases (List.prefix_append_right_inj part).mp isFront with ⟨rest', same⟩
        rcases List.cons.inj continued with ⟨rfl, _⟩
        exact stops head (others' ++ rest') same.symm inRange
  refine ⟨awaits.nonempty, ?_, Or.inr awaits.begins, longest⟩
  intro c isFront
  -- A character here is a front of the part, and then of the character that the part begins.
  have short := longest _ isFront ⟨c, List.prefix_refl _⟩
  have inside := List.prefix_of_prefix_length_le isFront (List.prefix_append part rest) short
  rcases awaits.begins with ⟨d, begun⟩
  rcases eq_of_encodeChar_prefix (inside.trans begun) with rfl
  have whole := begun.eq_of_length_le inside.length_le
  rcases awaits.completed c [] (by rw [List.append_nil, whole]) with ⟨_, _, empty, _⟩
  cases empty

end Awaits

/-! ## The first byte of a character -/

/-- The encodings of two bytes. -/
theorem encodeChar_double {high low : Nat} (least : 2 ≤ high) (bits : high < 32)
    (lowBits : low < 64) :
    String.utf8EncodeChar (Char.ofNat (high * 64 + low)) =
      [UInt8.ofNat (high + 192), UInt8.ofNat (low + 128)] := by
  have valid : (high * 64 + low).isValidChar := Or.inl (by omega)
  rw [String.utf8EncodeChar, toNat_ofNat_of_valid valid, if_neg (by omega), if_pos (by omega),
    show (high * 64 + low) / 64 % 32 = high by omega, show (high * 64 + low) % 64 = low by omega]

/-- The encodings of three bytes. -/
theorem encodeChar_triple {high middle low : Nat} (bits : high < 16) (middleBits : middle < 64)
    (lowBits : low < 64) (long : high = 0 -> 32 ≤ middle) (noSurrogate : high = 13 -> middle < 32) :
    String.utf8EncodeChar (Char.ofNat ((high * 64 + middle) * 64 + low)) =
      [UInt8.ofNat (high + 224), UInt8.ofNat (middle + 128), UInt8.ofNat (low + 128)] := by
  have valid : ((high * 64 + middle) * 64 + low).isValidChar := by
    show _ < 0xD800 ∨ (0xDFFF < _ ∧ _ < 0x110000)
    omega
  rw [String.utf8EncodeChar, toNat_ofNat_of_valid valid, if_neg (by omega), if_neg (by omega),
    if_pos (by omega), show ((high * 64 + middle) * 64 + low) / 4096 % 16 = high by omega,
    show ((high * 64 + middle) * 64 + low) / 64 % 64 = middle by omega,
    show ((high * 64 + middle) * 64 + low) % 64 = low by omega]

/-- The encodings of four bytes. -/
theorem encodeChar_quadruple {high upper middle low : Nat} (bits : high < 5)
    (upperBits : upper < 64) (middleBits : middle < 64) (lowBits : low < 64)
    (long : high = 0 -> 16 ≤ upper) (noExcess : high = 4 -> upper < 16) :
    String.utf8EncodeChar (Char.ofNat (((high * 64 + upper) * 64 + middle) * 64 + low)) =
      [UInt8.ofNat (high + 240), UInt8.ofNat (upper + 128), UInt8.ofNat (middle + 128),
        UInt8.ofNat (low + 128)] := by
  have valid : (((high * 64 + upper) * 64 + middle) * 64 + low).isValidChar := by
    show _ < 0xD800 ∨ (0xDFFF < _ ∧ _ < 0x110000)
    omega
  rw [String.utf8EncodeChar, toNat_ofNat_of_valid valid, if_neg (by omega), if_neg (by omega),
    if_neg (by omega),
    show (((high * 64 + upper) * 64 + middle) * 64 + low) / 262144 % 8 = high by omega,
    show (((high * 64 + upper) * 64 + middle) * 64 + low) / 4096 % 64 = upper by omega,
    show (((high * 64 + upper) * 64 + middle) * 64 + low) / 64 % 64 = middle by omega,
    show (((high * 64 + upper) * 64 + middle) * 64 + low) % 64 = low by omega]

/-- The four lengths, and there are no other encodings. -/
theorem encodeChar_cases (c : Char) :
    (exists code, code < 128 ∧ String.utf8EncodeChar c = [UInt8.ofNat code]) ∨
    (exists high low, 2 ≤ high ∧ high < 32 ∧ low < 64 ∧
      String.utf8EncodeChar c = [UInt8.ofNat (high + 192), UInt8.ofNat (low + 128)]) ∨
    (exists high middle low, high < 16 ∧ middle < 64 ∧ low < 64 ∧ (high = 0 -> 32 ≤ middle) ∧
      (high = 13 -> middle < 32) ∧ String.utf8EncodeChar c =
        [UInt8.ofNat (high + 224), UInt8.ofNat (middle + 128), UInt8.ofNat (low + 128)]) ∨
    (exists high upper middle low, high < 5 ∧ upper < 64 ∧ middle < 64 ∧ low < 64 ∧
      (high = 0 -> 16 ≤ upper) ∧ (high = 4 -> upper < 16) ∧ String.utf8EncodeChar c =
        [UInt8.ofNat (high + 240), UInt8.ofNat (upper + 128), UInt8.ofNat (middle + 128),
          UInt8.ofNat (low + 128)]) := by
  have scalar : c.val.toNat < 0xD800 ∨ 0xDFFF < c.val.toNat ∧ c.val.toNat < 0x110000 := c.valid
  rw [String.utf8EncodeChar]
  generalize c.val.toNat = code at *
  split
  next small => exact Or.inl ⟨code, by omega, rfl⟩
  split
  next one small =>
    exact Or.inr (Or.inl ⟨code / 64 % 32, code % 64, by omega, by omega, by omega, rfl⟩)
  split
  next two small =>
    exact Or.inr (Or.inr (Or.inl ⟨code / 4096 % 16, code / 64 % 64, code % 64, by omega, by omega,
      by omega, by omega, by omega, rfl⟩))
  next three =>
    exact Or.inr (Or.inr (Or.inr ⟨code / 262144 % 8, code / 4096 % 64, code / 64 % 64, code % 64,
      by omega, by omega, by omega, by omega, by omega, by omega, rfl⟩))

/-- A continuation byte, by the six bits it carries. -/
theorem completes_cons_iff {missing low : Nat} {least greatest : UInt8} {more : List UInt8}
    (bits : low < 64) :
    Completes (missing + 1) least greatest (UInt8.ofNat (low + 128) :: more) ↔
      (least.toNat ≤ low + 128 ∧ low + 128 ≤ greatest.toNat) ∧
        Completes missing 0x80 0xBF more := by
  have code : (UInt8.ofNat (low + 128)).toNat = low + 128 := toNat_ofNat (by omega)
  simp only [Completes, List.cons.injEq, UInt8.le_iff_toNat_le]
  constructor
  · rintro ⟨byte, others, ⟨rfl, rfl⟩, inRange, completes⟩
    rw [code] at inRange
    exact ⟨inRange, completes⟩
  · rintro ⟨inRange, completes⟩
    rw [← code] at inRange
    exact ⟨_, _, ⟨rfl, rfl⟩, inRange, completes⟩

theorem continuation {low : Nat} (bits : low < 64) :
    (0x80 : UInt8).toNat ≤ low + 128 ∧ low + 128 ≤ (0xBF : UInt8).toNat :=
  ⟨Nat.le_add_left 128 low, show low + 128 ≤ 191 by omega⟩

theorem exists_low_of_completes {missing : Nat} {least greatest : UInt8} {tail : List UInt8}
    (completes : Completes (missing + 1) least greatest tail) (above : 128 ≤ least.toNat)
    (below : greatest.toNat ≤ 191) :
    exists low more, tail = UInt8.ofNat (low + 128) :: more ∧ low < 64 ∧
      least.toNat ≤ low + 128 ∧ low + 128 ≤ greatest.toNat ∧ Completes missing 0x80 0xBF more := by
  rcases completes with ⟨byte, more, rfl, ⟨leastLe, leGreatest⟩, completes⟩
  rw [UInt8.le_iff_toNat_le] at leastLe leGreatest
  have whole : byte.toNat - 128 + 128 = byte.toNat := by omega
  refine ⟨byte.toNat - 128, more, ?_, by omega, by omega, by omega, completes⟩
  rw [whole, UInt8.ofNat_toNat]

theorem gather_low {low : Nat} (bits : low < 64) (value : Nat) (tail : List UInt8) :
    gather value (UInt8.ofNat (low + 128) :: tail) = gather (value * 64 + low) tail := by
  rw [gather_cons, toNat_ofNat (by omega), Nat.add_sub_cancel]

/-- Every encoded character is a single byte, or its first byte tells the machine what follows. -/
theorem encodeChar_led (c : Char) :
    (exists byte : UInt8, byte.toNat < 128 ∧ String.utf8EncodeChar c = [byte]) ∨
    (exists byte tail missing least greatest value, String.utf8EncodeChar c = byte :: tail ∧
      advance .ready byte = ([], .inside missing least greatest value) ∧
      Completes missing least greatest tail) := by
  rcases encodeChar_cases c with ⟨code, small, shape⟩ |
    ⟨high, low, least, bits, lowBits, shape⟩ |
    ⟨high, middle, low, bits, middleBits, lowBits, long, noSurrogate, shape⟩ |
    ⟨high, upper, middle, low, bits, upperBits, middleBits, lowBits, long, noExcess, shape⟩
  · have ascii : (UInt8.ofNat code).toNat < 128 := by rwa [toNat_ofNat (by omega)]
    exact Or.inl ⟨_, ascii, shape⟩
  · refine Or.inr ⟨_, _, _, _, _, _, shape, advance_double high least bits, ?_⟩
    exact (completes_cons_iff lowBits).mpr ⟨continuation lowBits, rfl⟩
  · refine Or.inr ⟨_, _, _, _, _, _, shape, advance_triple high bits, ?_⟩
    have above : high = 0 -> 160 ≤ middle + 128 := by omega
    have below : high = 13 -> middle + 128 ≤ 159 := by omega
    exact (completes_cons_iff middleBits).mpr ⟨second_within 0xA0 0x9F middleBits above below,
      (completes_cons_iff lowBits).mpr ⟨continuation lowBits, rfl⟩⟩
  · refine Or.inr ⟨_, _, _, _, _, _, shape, advance_quadruple high bits, ?_⟩
    have above : high = 0 -> 144 ≤ upper + 128 := by omega
    have below : high = 4 -> upper + 128 ≤ 143 := by omega
    exact (completes_cons_iff upperBits).mpr ⟨second_within 0x90 0x8F upperBits above below,
      (completes_cons_iff middleBits).mpr ⟨continuation middleBits,
        (completes_cons_iff lowBits).mpr ⟨continuation lowBits, rfl⟩⟩⟩

/-- What the machine knows after a first byte holds of every character with that byte. -/
theorem completes_of_led {byte least greatest : UInt8} {missing value : Nat} {c : Char}
    {tail : List UInt8} (led : advance .ready byte = ([], .inside missing least greatest value))
    (whole : [byte] ++ tail = String.utf8EncodeChar c) : Completes missing least greatest tail := by
  rcases encodeChar_led c with ⟨first, ascii, shape⟩ |
    ⟨first, others, m, l, g, v, shape, known, completes⟩
  · rw [shape] at whole
    rcases List.cons.inj whole with ⟨rfl, rfl⟩
    have single := advance_single ascii
    rw [UInt8.ofNat_toNat, led] at single
    cases single
  · rw [shape] at whole
    rcases List.cons.inj whole with ⟨rfl, rfl⟩
    rw [led] at known
    cases known
    exact completes

theorem awaits_double {high : Nat} (least : 2 ≤ high) (bits : high < 32) :
    Awaits [UInt8.ofNat (high + 192)] 1 0x80 0xBF high where
  nonempty := List.cons_ne_nil _ _
  least_le_greatest := by decide
  encoded := by
    intro tail completes
    rcases exists_low_of_completes completes (by decide) (by decide) with
      ⟨low, more, rfl, lowBits, _, _, rfl⟩
    rw [gather_low lowBits]
    exact (encodeChar_double least bits lowBits).symm
  completed := fun _ _ whole => completes_of_led (advance_double high least bits) whole

theorem awaits_triple {high : Nat} (bits : high < 16) :
    Awaits [UInt8.ofNat (high + 224)] 2 (if high = 0 then 0xA0 else 0x80)
      (if high = 13 then 0x9F else 0xBF) high where
  nonempty := List.cons_ne_nil _ _
  least_le_greatest := by
    split
    · rw [if_neg (by omega)]
      decide
    · split <;> decide
  encoded := by
    intro tail completes
    rcases exists_low_of_completes completes (by split <;> decide) (by split <;> decide) with
      ⟨middle, more, rfl, middleBits, above, below, completes⟩
    rcases exists_low_of_completes completes (by decide) (by decide) with
      ⟨low, more, rfl, lowBits, _, _, rfl⟩
    have long : high = 0 -> 32 ≤ middle := by
      intro zero
      rw [if_pos zero] at above
      exact Nat.le_of_add_le_add_right (show 32 + 128 ≤ middle + 128 from above)
    have noSurrogate : high = 13 -> middle < 32 := by
      intro surrogate
      rw [if_pos surrogate] at below
      exact Nat.lt_of_add_lt_add_right (show middle + 128 < 32 + 128 from Nat.lt_succ_of_le below)
    rw [gather_low middleBits, gather_low lowBits]
    exact (encodeChar_triple bits middleBits lowBits long noSurrogate).symm
  completed := fun _ _ whole => completes_of_led (advance_triple high bits) whole

theorem awaits_quadruple {high : Nat} (bits : high < 5) :
    Awaits [UInt8.ofNat (high + 240)] 3 (if high = 0 then 0x90 else 0x80)
      (if high = 4 then 0x8F else 0xBF) high where
  nonempty := List.cons_ne_nil _ _
  least_le_greatest := by
    split
    · rw [if_neg (by omega)]
      decide
    · split <;> decide
  encoded := by
    intro tail completes
    rcases exists_low_of_completes completes (by split <;> decide) (by split <;> decide) with
      ⟨upper, more, rfl, upperBits, above, below, completes⟩
    rcases exists_low_of_completes completes (by decide) (by decide) with
      ⟨middle, more, rfl, middleBits, _, _, completes⟩
    rcases exists_low_of_completes completes (by decide) (by decide) with
      ⟨low, more, rfl, lowBits, _, _, rfl⟩
    have long : high = 0 -> 16 ≤ upper := by
      intro zero
      rw [if_pos zero] at above
      exact Nat.le_of_add_le_add_right (show 16 + 128 ≤ upper + 128 from above)
    have noExcess : high = 4 -> upper < 16 := by
      intro greatest
      rw [if_pos greatest] at below
      exact Nat.lt_of_add_lt_add_right (show upper + 128 < 16 + 128 from Nat.lt_succ_of_le below)
    rw [gather_low upperBits, gather_low middleBits, gather_low lowBits]
    exact (encodeChar_quadruple bits upperBits middleBits lowBits long noExcess).symm
  completed := fun _ _ whole => completes_of_led (advance_quadruple high bits) whole

/-- A first byte is a character, or begins one of several bytes, or is replaced at once. -/
theorem first_byte_cases (byte : UInt8) :
    byte.toNat < 128 ∨
    (exists missing least greatest value,
      advance .ready byte = ([], .inside (missing + 1) least greatest value) ∧
      Awaits [byte] (missing + 1) least greatest value) ∨
    (128 ≤ byte.toNat ∧ advance .ready byte = ([replacement], .ready)) := by
  have bound := byte.toNat_lt
  have same : forall base high, byte.toNat = high + base -> byte = UInt8.ofNat (high + base) := by
    intro base high code
    rw [← code, UInt8.ofNat_toNat]
  by_cases ascii : byte.toNat < 128
  · exact Or.inl ascii
  · refine Or.inr ?_
    by_cases foreign : byte.toNat < 0xC2 ∨ 0xF4 < byte.toNat
    · have free : begin byte = ([replacement], .ready) := by
        simp only [begin, if_neg ascii, beq_iff_eq]
        rcases foreign with small | great
        · rw [if_pos small]
        · repeat rw [if_neg (by omega)]
      exact Or.inr ⟨by omega, free⟩
    · refine Or.inl ?_
      by_cases double : byte.toNat < 0xE0
      · have shape := same 192 (byte.toNat - 192) (by omega)
        have least : 2 ≤ byte.toNat - 192 := by omega
        have bits : byte.toNat - 192 < 32 := by omega
        generalize byte.toNat - 192 = high at *
        subst shape
        exact ⟨_, _, _, _, advance_double high least bits, awaits_double least bits⟩
      · by_cases triple : byte.toNat < 0xF0
        · have shape := same 224 (byte.toNat - 224) (by omega)
          have bits : byte.toNat - 224 < 16 := by omega
          generalize byte.toNat - 224 = high at *
          subst shape
          exact ⟨_, _, _, _, advance_triple high bits, awaits_triple bits⟩
        · have shape := same 240 (byte.toNat - 240) (by omega)
          have bits : byte.toNat - 240 < 5 := by omega
          generalize byte.toNat - 240 = high at *
          subst shape
          exact ⟨_, _, _, _, advance_quadruple high bits, awaits_quadruple bits⟩

/-! ## The machine reads as the rules say -/

/-- A byte that neither is a character nor begins one. -/
theorem isSubpart_singleton {byte : UInt8} (high : 128 ≤ byte.toNat)
    (refused : advance .ready byte = ([replacement], .ready)) (rest : List UInt8) :
    IsSubpart [byte] rest := by
  have foreign : forall c tail, String.utf8EncodeChar c ≠ byte :: tail := by
    intro c tail whole
    rcases encodeChar_led c with ⟨first, ascii, shape⟩ | ⟨first, _, _, _, _, _, shape, led, _⟩
    · rw [shape] at whole
      rcases List.cons.inj whole with ⟨rfl, _⟩
      omega
    · rw [shape] at whole
      rcases List.cons.inj whole with ⟨rfl, _⟩
      rw [refused] at led
      cases led
  refine ⟨List.cons_ne_nil _ _, ?_, Or.inl rfl, ?_⟩
  · rintro c ⟨more, whole⟩
    cases shape : String.utf8EncodeChar c with
    | nil => exact encodeChar_ne_nil c shape
    | cons first tail =>
        rw [shape] at whole
        rcases List.cons.inj whole with ⟨rfl, _⟩
        exact foreign c tail shape
  · rintro front ⟨more, whole⟩ ⟨c, tail, shape⟩
    cases front with
    | nil => exact Nat.zero_le _
    | cons first others =>
        rcases List.cons.inj whole with ⟨rfl, _⟩
        exact absurd shape.symm (foreign c (others ++ tail))

/-- A byte that does not continue a character ends it, and is read again as a first byte. -/
theorem decodeFrom_unfit {least greatest byte : UInt8} (missing value : Nat) (rest : List UInt8)
    (outside : ¬ (least ≤ byte ∧ byte ≤ greatest)) :
    decodeFrom (.inside (missing + 1) least greatest value) (byte :: rest) =
      replacement :: decodeFrom .ready (byte :: rest) := by
  have unfit : ¬ (least ≤ byte && byte ≤ greatest) = true := by
    rw [Bool.and_eq_true, decide_eq_true_iff, decide_eq_true_iff]
    exact outside
  rw [decodeFrom, advance, if_neg unfit, decodeFrom, advance]
  rfl

theorem reads_first_byte {rest : List UInt8} (byte : UInt8)
    (ready : Reads rest (decodeFrom .ready rest))
    (inside : forall part missing least greatest value,
      Awaits part (missing + 1) least greatest value ->
      Reads (part ++ rest) (decodeFrom (.inside (missing + 1) least greatest value) rest)) :
    Reads (byte :: rest) (decodeFrom .ready (byte :: rest)) := by
  rcases first_byte_cases byte with ascii |
    ⟨missing, least, greatest, value, led, awaits⟩ | ⟨high, refused⟩
  · have single := advance_single ascii
    rw [UInt8.ofNat_toNat] at single
    have reads := Reads.character (Char.ofNat byte.toNat) ready
    rw [encodeChar_ascii ascii] at reads
    rw [decodeFrom_cons single]
    exact reads
  · rw [decodeFrom_cons led]
    exact inside [byte] missing least greatest value awaits
  · rw [decodeFrom_cons refused]
    exact .replaced (isSubpart_singleton high refused rest) ready

/-- Induction over the bytes that are left.  Inside a character, what was read of it is carried
along until it is completed or given up; a byte that ends a part is read again as a first one. -/
theorem reads_decodeFrom (bytes : List UInt8) :
    Reads bytes (decodeFrom .ready bytes) ∧
    forall part missing least greatest value,
      Awaits part (missing + 1) least greatest value ->
      Reads (part ++ bytes) (decodeFrom (.inside (missing + 1) least greatest value) bytes) := by
  induction bytes with
  | nil =>
      refine ⟨.nil, ?_⟩
      intro part missing least greatest value awaits
      have stops : forall byte more, ([] : List UInt8) = byte :: more ->
          ¬ (least ≤ byte ∧ byte ≤ greatest) := by
        intro byte more empty
        cases empty
      exact .replaced (awaits.isSubpart stops) .nil
  | cons byte rest inductionHypothesis =>
      rcases inductionHypothesis with ⟨ready, inside⟩
      have fresh := reads_first_byte byte ready inside
      refine ⟨fresh, ?_⟩
      intro part missing least greatest value awaits
      by_cases inRange : least ≤ byte ∧ byte ≤ greatest
      · have continued := awaits.next inRange
        have fits : (least ≤ byte && byte ≤ greatest) = true := by
          rw [Bool.and_eq_true, decide_eq_true_iff, decide_eq_true_iff]
          exact inRange
        rw [decodeFrom, advance, if_pos fits, ← List.singleton_append, ← List.append_assoc]
        cases missing with
        | zero =>
            have whole := continued.encoded [] rfl
            rw [List.append_nil] at whole
            rw [whole]
            exact .character _ ready
        | succ missing => exact inside _ missing _ _ _ continued
      · have stops : forall next more, byte :: rest = next :: more ->
            ¬ (least ≤ next ∧ next ≤ greatest) := by
          intro next more same
          rcases List.cons.inj same with ⟨rfl, _⟩
          exact inRange
        rw [decodeFrom_unfit missing value rest inRange]
        exact .replaced (awaits.isSubpart stops) fresh

theorem reads_lossy (bytes : List UInt8) : Reads bytes (lossy bytes) :=
  (reads_decodeFrom bytes).1

/-- Where a part is replaced, nothing leaves a choice which one. -/
theorem IsSubpart.unique {part rest other more : List UInt8} (subpart : IsSubpart part rest)
    (otherSubpart : IsSubpart other more) (same : part ++ rest = other ++ more) :
    part = other ∧ rest = more := by
  have shorter : forall {part rest other more : List UInt8}, IsSubpart part rest ->
      IsSubpart other more -> part ++ rest = other ++ more -> part.length ≤ other.length := by
    intro part rest other more subpart otherSubpart same
    rcases subpart.single_or_begins with single | begins
    · rw [single]
      exact List.length_pos_iff.mpr otherSubpart.nonempty
    · exact otherSubpart.longest part ⟨rest, same⟩ begins
  exact List.append_inj same (Nat.le_antisymm (shorter subpart otherSubpart same)
    (shorter otherSubpart subpart same.symm))

theorem Reads.unique {bytes : List UInt8} {text other : List Char} (reads : Reads bytes text)
    (otherReads : Reads bytes other) : text = other := by
  induction reads generalizing other with
  | nil =>
      generalize empty : ([] : List UInt8) = bytes at otherReads
      cases otherReads with
      | nil => rfl
      | character c _ => exact absurd (List.append_eq_nil_iff.mp empty.symm).1 (encodeChar_ne_nil c)
      | replaced subpart _ => exact absurd (List.append_eq_nil_iff.mp empty.symm).1 subpart.nonempty
  | @character c rest text reads inductionHypothesis =>
      generalize same : String.utf8EncodeChar c ++ rest = bytes at otherReads
      cases otherReads with
      | nil => exact absurd (List.append_eq_nil_iff.mp same).1 (encodeChar_ne_nil c)
      | character d otherReads =>
          rcases encodeChar_append_inj same with ⟨rfl, rfl⟩
          rw [inductionHypothesis otherReads]
      | replaced subpart _ => exact absurd ⟨rest, same⟩ (subpart.unconvertible c)
  | @replaced part rest text subpart reads inductionHypothesis =>
      generalize same : part ++ rest = bytes at otherReads
      cases otherReads with
      | nil => exact absurd (List.append_eq_nil_iff.mp same).1 subpart.nonempty
      | character d _ => exact absurd ⟨_, same.symm⟩ (subpart.unconvertible d)
      | replaced otherSubpart otherReads =>
          rcases subpart.unique otherSubpart same with ⟨rfl, rfl⟩
          rw [inductionHypothesis otherReads]

/-- Decoding is the only way to read bytes. -/
theorem reads_iff {bytes : List UInt8} {text : List Char} :
    Reads bytes text ↔ text = lossy bytes := by
  constructor
  · intro reads
    exact reads.unique (reads_lossy bytes)
  · rintro rfl
    exact reads_lossy bytes

theorem lossy_encodeChar (c : Char) (rest : List UInt8) :
    lossy (String.utf8EncodeChar c ++ rest) = c :: lossy rest :=
  decodeFrom_char c rest

theorem IsSubpart.lossy {part rest : List UInt8} (subpart : IsSubpart part rest) :
    lossy (part ++ rest) = replacement :: lossy rest :=
  (reads_iff.mp (.replaced subpart (reads_lossy rest))).symm

theorem lossy_eq_nil_iff {bytes : List UInt8} : lossy bytes = [] ↔ bytes = [] := by
  constructor
  · intro empty
    have reads := reads_lossy bytes
    rw [empty] at reads
    cases reads
    rfl
  · rintro rfl
    rfl

/-- A text in which nothing was replaced has been read from its encoding. -/
theorem lossy_eq_iff {bytes : List UInt8} {text : List Char} (intact : replacement ∉ text) :
    lossy bytes = text ↔ bytes = encode text := by
  constructor
  · intro read
    have reads := reads_lossy bytes
    rw [read] at reads
    clear read
    induction reads with
    | nil => rfl
    | character c reads inductionHypothesis =>
        rw [inductionHypothesis (fun member => intact (List.mem_cons_of_mem c member)), encode_cons]
    | replaced subpart reads => exact absurd List.mem_cons_self intact
  · rintro rfl
    exact lossy_encode text

/-! ## Cutting at an ASCII byte -/

variable {byte : UInt8}

/-- A part that is replaced holds no ASCII byte: alone such a byte is a character, and inside a
longer character it does not occur. -/
theorem IsSubpart.not_mem_ascii {part rest : List UInt8} (subpart : IsSubpart part rest)
    (ascii : byte.toNat < 128) : byte ∉ part := by
  intro member
  have alone : part = [byte] := by
    rcases subpart.single_or_begins with single | ⟨c, begins⟩
    · rcases List.length_eq_one_iff.mp single with ⟨first, rfl⟩
      rw [List.mem_singleton.mp member]
    · have code := (mem_encodeChar_ascii ascii c).mp (begins.subset member)
      have same : Char.ofNat byte.toNat = c := by rw [← code, Char.ofNat_toNat]
      rw [← same, encodeChar_ascii ascii] at begins
      exact begins.eq_of_length_le (List.length_pos_iff.mpr subpart.nonempty)
  have isFront : String.utf8EncodeChar (Char.ofNat byte.toNat) <+: part ++ rest := by
    rw [encodeChar_ascii ascii, alone]
    exact List.prefix_append [byte] rest
  exact subpart.unconvertible _ isFront

/-- Whether a part is replaced is decided no later than where what follows is cut off. -/
theorem IsSubpart.of_prefix {part rest first : List UInt8} (subpart : IsSubpart part rest)
    (isFront : first <+: rest) : IsSubpart part first := by
  have within : part ++ first <+: part ++ rest := (List.prefix_append_right_inj part).mpr isFront
  exact ⟨subpart.nonempty, fun c front => subpart.unconvertible c (front.trans within),
    subpart.single_or_begins, fun front here => subpart.longest front (here.trans within)⟩

/-- Cutting the bytes at an ASCII byte and decoding the pieces gives the pieces of the text.
Induction over the reading: a character of the text is the separator, or it lies with all its bytes
inside the first piece, and so does a part that is replaced. -/
theorem pieces_lossy (ascii : byte.toNat < 128) (bytes : List UInt8) :
    pieces (Char.ofNat byte.toNat) (lossy bytes) = (pieces byte bytes).map lossy := by
  have reads := reads_lossy bytes
  generalize lossy bytes = text at reads
  induction reads with
  | nil => rfl
  | @character c rest text _ inductionHypothesis =>
      by_cases same : c = Char.ofNat byte.toNat
      · rw [same, encodeChar_ascii ascii, List.singleton_append, pieces,
          if_pos (beq_self_eq_true _), pieces, if_pos (beq_self_eq_true _), inductionHypothesis]
        rfl
      · have absent : byte ∉ String.utf8EncodeChar c := by
          intro member
          apply same
          rw [← (mem_encodeChar_ascii ascii c).mp member, Char.ofNat_toNat]
        cases cut : pieces byte rest with
        | nil => exact absurd cut (pieces_ne_nil byte rest)
        | cons first others =>
            rw [cut, List.map_cons] at inductionHypothesis
            have outside : Char.ofNat byte.toNat ∉ [c] :=
              fun member => same (List.mem_singleton.mp member).symm
            rw [pieces_append_of_not_mem absent cut, List.map_cons, lossy_encodeChar,
              ← List.singleton_append, pieces_append_of_not_mem outside inductionHypothesis]
            rfl
  | @replaced part rest text subpart _ inductionHypothesis =>
      have outside : Char.ofNat byte.toNat ∉ [replacement] := by
        intro member
        have code := toNat_ofNat_of_valid (Or.inl (by omega) : byte.toNat.isValidChar)
        rw [List.mem_singleton.mp member] at code
        have high : replacement.val.toNat = 0xFFFD := rfl
        omega
      cases cut : pieces byte rest with
      | nil => exact absurd cut (pieces_ne_nil byte rest)
      | cons first others =>
          rw [cut, List.map_cons] at inductionHypothesis
          rw [pieces_append_of_not_mem (subpart.not_mem_ascii ascii) cut, List.map_cons,
            (subpart.of_prefix (prefix_of_pieces cut)).lossy, ← List.singleton_append,
            pieces_append_of_not_mem outside inductionHypothesis]
          rfl

end Utf8
end Text
end LanguageServer
