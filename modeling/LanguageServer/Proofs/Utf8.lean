import LanguageServer.Text.Utf8

namespace LanguageServer
namespace Text
namespace Utf8

/-!
# Reading text that was written

Lossy reading gives back every text that was encoded: no byte of an encoded character is refused
by the machine, so nothing is replaced.  The machine is followed byte by byte.  First comes what it
does with the bytes that can begin a character and with those that can continue one, then a lemma
for each length of a character.

The other fact is about single bytes.  A byte of the ASCII range stands for its own character and
occurs in the encoding of no other one, so a separator can be looked for before or after decoding.
-/

theorem toNat_ofNat {code : Nat} (byte : code < 256) : (UInt8.ofNat code).toNat = code :=
  UInt8.toNat_ofNat_of_lt' byte

/-! ## One byte -/

theorem advance_single {code : Nat} (ascii : code < 128) :
    advance .ready (UInt8.ofNat code) = ([Char.ofNat code], .ready) := by
  have same : (UInt8.ofNat code).toNat = code := toNat_ofNat (by omega)
  simp only [advance, begin, same, if_pos ascii]

theorem advance_double (high : Nat) (least : 2 ≤ high) (bits : high < 32) :
    advance .ready (UInt8.ofNat (high + 192)) = ([], .inside 1 0x80 0xBF high) := by
  have all : forall high : Fin 32, 2 ≤ high.val ->
      advance .ready (UInt8.ofNat (high.val + 192)) = ([], .inside 1 0x80 0xBF high.val) := by
    decide
  exact all ⟨high, bits⟩ least

/-- The second byte must not make the character too small for its length, nor a surrogate. -/
theorem advance_triple (high : Nat) (bits : high < 16) :
    advance .ready (UInt8.ofNat (high + 224)) =
      ([], .inside 2 (if high = 0 then 0xA0 else 0x80) (if high = 13 then 0x9F else 0xBF)
        high) := by
  have all : forall high : Fin 16, advance .ready (UInt8.ofNat (high.val + 224)) =
      ([], .inside 2 (if high.val = 0 then 0xA0 else 0x80) (if high.val = 13 then 0x9F else 0xBF)
        high.val) := by decide
  exact all ⟨high, bits⟩

/-- The second byte must not make the character too small for its length, nor too great. -/
theorem advance_quadruple (high : Nat) (bits : high < 5) :
    advance .ready (UInt8.ofNat (high + 240)) =
      ([], .inside 3 (if high = 0 then 0x90 else 0x80) (if high = 4 then 0x8F else 0xBF) high) := by
  have all : forall high : Fin 5, advance .ready (UInt8.ofNat (high.val + 240)) =
      ([], .inside 3 (if high.val = 0 then 0x90 else 0x80) (if high.val = 4 then 0x8F else 0xBF)
        high.val) := by decide
  exact all ⟨high, bits⟩

/-- A second byte is restricted only behind the first byte that begins the smallest characters of a
length, and behind the one that begins the greatest. -/
theorem second_within (least greatest : UInt8) {high low last : Nat} (bits : low < 64)
    (above : high = 0 -> least.toNat ≤ low + 128)
    (below : high = last -> low + 128 ≤ greatest.toNat) :
    (if high = 0 then least else 0x80).toNat ≤ low + 128 ∧
      low + 128 ≤ (if high = last then greatest else 0xBF).toNat := by
  constructor
  · split
    next smallest => exact above smallest
    next => exact Nat.le_add_left 128 low
  · split
    next largest => exact below largest
    next => exact (show low + 128 ≤ 191 by omega)

theorem advance_continuation (missing value low : Nat) (least greatest : UInt8) (bits : low < 64)
    (above : least.toNat ≤ low + 128) (below : low + 128 ≤ greatest.toNat) :
    advance (.inside missing least greatest value) (UInt8.ofNat (low + 128)) =
      if missing ≤ 1 then ([Char.ofNat (value * 64 + low)], .ready)
      else ([], .inside (missing - 1) 0x80 0xBF (value * 64 + low)) := by
  have code : (UInt8.ofNat (low + 128)).toNat = low + 128 := toNat_ofNat (by omega)
  have inRange :
      (least ≤ UInt8.ofNat (low + 128) && UInt8.ofNat (low + 128) ≤ greatest) = true := by
    rw [Bool.and_eq_true, decide_eq_true_iff, decide_eq_true_iff, UInt8.le_iff_toNat_le,
      UInt8.le_iff_toNat_le, code]
    exact ⟨above, below⟩
  rw [advance, if_pos inRange, code, Nat.add_sub_cancel]

/-- Bytes after the second are not restricted any further. -/
theorem advance_plain (missing value low : Nat) (bits : low < 64) :
    advance (.inside missing 0x80 0xBF value) (UInt8.ofNat (low + 128)) =
      if missing ≤ 1 then ([Char.ofNat (value * 64 + low)], .ready)
      else ([], .inside (missing - 1) 0x80 0xBF (value * 64 + low)) :=
  advance_continuation missing value low 0x80 0xBF bits (Nat.le_add_left 128 low)
    (show low + 128 ≤ 191 by omega)

/-! ## One character -/

theorem decodeFrom_cons {progress next : Progress} {byte : UInt8} {characters : List Char}
    (advanced : advance progress byte = (characters, next)) (rest : List UInt8) :
    decodeFrom progress (byte :: rest) = characters ++ decodeFrom next rest := by
  rw [decodeFrom, advanced]

theorem decodeFrom_single {code : Nat} (small : code ≤ 127) (rest : List UInt8) :
    decodeFrom .ready (UInt8.ofNat code :: rest) = Char.ofNat code :: decodeFrom .ready rest :=
  decodeFrom_cons (advance_single (Nat.lt_succ_of_le small)) rest

theorem decodeFrom_double {code : Nat} (least : 127 < code) (greatest : code ≤ 2047)
    (rest : List UInt8) :
    decodeFrom .ready
        (UInt8.ofNat (code / 64 % 32 + 192) :: UInt8.ofNat (code % 64 + 128) :: rest) =
      Char.ofNat code :: decodeFrom .ready rest := by
  have high : code / 64 % 32 = code / 64 := Nat.mod_eq_of_lt (by omega)
  have first := advance_double (code / 64) (by omega) (by omega)
  have second := advance_plain 1 (code / 64) (code % 64) (by omega)
  have whole : code / 64 * 64 + code % 64 = code := by omega
  rw [high, decodeFrom_cons first, decodeFrom_cons second, whole]
  rfl

theorem decodeFrom_triple {code : Nat} (least : 2047 < code) (greatest : code ≤ 65535)
    (scalar : code < 0xD800 ∨ 0xDFFF < code) (rest : List UInt8) :
    decodeFrom .ready (UInt8.ofNat (code / 4096 % 16 + 224) ::
        UInt8.ofNat (code / 64 % 64 + 128) :: UInt8.ofNat (code % 64 + 128) :: rest) =
      Char.ofNat code :: decodeFrom .ready rest := by
  have high : code / 4096 % 16 = code / 4096 := Nat.mod_eq_of_lt (by omega)
  have first := advance_triple (code / 4096) (by omega)
  have above : code / 4096 = 0 -> 160 ≤ code / 64 % 64 + 128 := by omega
  have below : code / 4096 = 13 -> code / 64 % 64 + 128 ≤ 159 := by omega
  have bits : code / 64 % 64 < 64 := by omega
  have within := second_within 0xA0 0x9F bits above below
  have second := advance_continuation 2 (code / 4096) (code / 64 % 64) _ _ bits within.1 within.2
  have third := advance_plain 1 (code / 4096 * 64 + code / 64 % 64) (code % 64) (by omega)
  have whole : (code / 4096 * 64 + code / 64 % 64) * 64 + code % 64 = code := by omega
  rw [high, decodeFrom_cons first, decodeFrom_cons second, decodeFrom_cons third, whole]
  rfl

theorem decodeFrom_quadruple {code : Nat} (least : 65535 < code) (greatest : code < 0x110000)
    (rest : List UInt8) :
    decodeFrom .ready (UInt8.ofNat (code / 262144 % 8 + 240) ::
        UInt8.ofNat (code / 4096 % 64 + 128) :: UInt8.ofNat (code / 64 % 64 + 128) ::
        UInt8.ofNat (code % 64 + 128) :: rest) =
      Char.ofNat code :: decodeFrom .ready rest := by
  have high : code / 262144 % 8 = code / 262144 := Nat.mod_eq_of_lt (by omega)
  have first := advance_quadruple (code / 262144) (by omega)
  have above : code / 262144 = 0 -> 144 ≤ code / 4096 % 64 + 128 := by omega
  have below : code / 262144 = 4 -> code / 4096 % 64 + 128 ≤ 143 := by omega
  have bits : code / 4096 % 64 < 64 := by omega
  have within := second_within 0x90 0x8F bits above below
  have second :=
    advance_continuation 3 (code / 262144) (code / 4096 % 64) _ _ bits within.1 within.2
  have third := advance_plain 2 (code / 262144 * 64 + code / 4096 % 64) (code / 64 % 64) (by omega)
  have fourth := advance_plain 1
    ((code / 262144 * 64 + code / 4096 % 64) * 64 + code / 64 % 64) (code % 64) (by omega)
  have whole : ((code / 262144 * 64 + code / 4096 % 64) * 64 + code / 64 % 64) * 64 +
      code % 64 = code := by omega
  rw [high, decodeFrom_cons first, decodeFrom_cons second, decodeFrom_cons third,
    decodeFrom_cons fourth, whole]
  rfl

theorem decodeFrom_char (c : Char) (rest : List UInt8) :
    decodeFrom .ready (String.utf8EncodeChar c ++ rest) = c :: decodeFrom .ready rest := by
  have back : Char.ofNat c.val.toNat = c := Char.ofNat_toNat c
  have scalar : c.val.toNat < 0xD800 ∨ 0xDFFF < c.val.toNat ∧ c.val.toNat < 0x110000 := c.valid
  rw [String.utf8EncodeChar]
  generalize c.val.toNat = code at *
  rw [← back]
  -- the four lengths
  split
  next small => exact decodeFrom_single small rest
  split
  next one small => exact decodeFrom_double (by omega) small rest
  split
  next two small => exact decodeFrom_triple (by omega) small (by omega) rest
  next three => exact decodeFrom_quadruple (by omega) (by omega) rest

/-! ## Texts -/

theorem lossy_encode (text : List Char) : lossy (encode text) = text := by
  rw [lossy, encode]
  induction text with
  | nil => rfl
  | cons c rest inductionHypothesis =>
      rw [List.flatMap_cons, decodeFrom_char, inductionHypothesis]

theorem encode_append (text more : List Char) :
    encode (text ++ more) = encode text ++ encode more :=
  List.flatMap_append

/-- Only an ASCII character has an ASCII byte, and that one has no other. -/
theorem mem_encodeChar_ascii {byte : UInt8} (ascii : byte.toNat < 128) (c : Char) :
    byte ∈ String.utf8EncodeChar c ↔ c.toNat = byte.toNat := by
  have same : forall code, code < 256 -> (byte = UInt8.ofNat code ↔ byte.toNat = code) := by
    intro code small
    rw [← UInt8.toNat_inj, toNat_ofNat small]
  rw [String.utf8EncodeChar, ← Char.toNat_val]
  generalize c.val.toNat = code
  split
  · rw [List.mem_singleton, same code (by omega)]
    exact eq_comm
  split
  · simp only [List.mem_cons, List.not_mem_nil, or_false]
    rw [same _ (by omega), same _ (by omega)]
    omega
  split
  · simp only [List.mem_cons, List.not_mem_nil, or_false]
    rw [same _ (by omega), same _ (by omega), same _ (by omega)]
    omega
  · simp only [List.mem_cons, List.not_mem_nil, or_false]
    rw [same _ (by omega), same _ (by omega), same _ (by omega), same _ (by omega)]
    omega

theorem mem_encode_ascii {byte : UInt8} (ascii : byte.toNat < 128) (text : List Char) :
    byte ∈ encode text ↔ Char.ofNat byte.toNat ∈ text := by
  rw [encode, List.mem_flatMap]
  constructor
  · rintro ⟨c, member, inside⟩
    rw [mem_encodeChar_ascii ascii] at inside
    rw [← inside, Char.ofNat_toNat]
    exact member
  · intro member
    refine ⟨_, member, (mem_encodeChar_ascii ascii _).mpr ?_⟩
    have valid : byte.toNat.isValidChar := Or.inl (by omega)
    rw [Char.ofNat, dif_pos valid]
    rfl

end Utf8
end Text
end LanguageServer
