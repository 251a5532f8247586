import Keyspace.HashKey
import Keyspace.Proofs.Text.Hexadecimal

/-!
Digests are the texts of hash keys.

A text is read as a hash key exactly if, without the blanks around it, it is thirty-two base-16
digits of either case (`ofDigest_eq_ok_iff`), and thirty-two digits write a number of the keyspace
and no other (`lt_of_ofDigest`). Written again it is the digest in lower case (`hex_of_ofDigest`),
so reading undoes writing and writing undoes reading but for case and blanks.

A digest that is computed is thirty-two digits in lower case as it is. So the one thing that can
stand between a key and its hash key is a code point without a UTF-8 form (`exists_digestOf_eq_hex`,
`digestOf_unencodable`).

    key ──MD5──▶ "d41d…427e" ◀──hex── hash key
                      └─────ofDigest────▶
-/

namespace Keyspace

namespace Md5

/-! ### The text of a digest -/

theorem length_wordHex (w : UInt32) : (wordHex w).length = 8 := by
  simp [wordHex, List.range_succ, Text.length_hex]

theorem isHex_wordHex (w : UInt32) : Text.IsHex (wordHex w) := by
  intro c hc
  obtain ⟨i, _, hc⟩ := List.mem_flatMap.1 hc
  exact Text.isHex_hex _ _ c hc

theorem length_hex (s : State) : s.hex.length = HashKey.digitCount := by
  simp [State.hex, length_wordHex, HashKey.digitCount]

theorem isHex_hex (s : State) : Text.IsHex s.hex := by
  unfold State.hex
  exact Text.isHex_append (Text.isHex_append (Text.isHex_append (isHex_wordHex _) (isHex_wordHex _))
    (isHex_wordHex _)) (isHex_wordHex _)

end Md5

namespace HashKey

/-! ### Reading a digest -/

/-- Thirty-two base-16 digits of either case. -/
structure IsDigest (t : Text) : Prop where
  length_eq : t.length = digitCount
  digits : ∀ c ∈ t, Text.IsHexDigit c

/-- A digest is read exactly if it is a text that, without the blanks around it, is thirty-two
    digits, and then as the number that these write. -/
theorem ofDigest_eq_ok_iff {v : Value} {h : Nat} :
    ofDigest v = .ok h ↔
      ∃ t, v = .text t ∧ IsDigest (Text.strip t) ∧ h = Text.hexNumeral (Text.strip t) := by
  constructor
  · intro hv
    cases v with
    | text t =>
      simp only [ofDigest] at hv
      split at hv
      · next hlength =>
        split at hv
        · next hvalue =>
          cases hv
          obtain ⟨hdigits, hnumeral⟩ := Text.hexValue?_eq_some_iff.1 hvalue
          exact ⟨t, rfl, ⟨hlength, hdigits⟩, hnumeral.symm⟩
        · cases hv
      · cases hv
    | _ => cases hv
  · rintro ⟨t, rfl, ⟨hlength, hdigits⟩, rfl⟩
    simp only [ofDigest, hlength, if_true, Text.hexValue?_eq_some_iff.2 ⟨hdigits, rfl⟩]

/-- What a digest is read as is in the keyspace. -/
theorem lt_of_ofDigest {digest : Value} {h : Nat} (hd : ofDigest digest = .ok h) :
    h < keyspaceSize := by
  obtain ⟨t, rfl, hdigest, rfl⟩ := ofDigest_eq_ok_iff.1 hd
  have hlt := Text.hexNumeral_lt hdigest.digits
  rw [hdigest.length_eq] at hlt
  exact hlt

/-- What was read, written as a hash key, is the digest in lower case without the blanks. -/
theorem hex_of_ofDigest {t : Text} {h : Nat} (hd : ofDigest (.text t) = .ok h) :
    hex h = Text.lowerAscii (Text.strip t) := by
  obtain ⟨_, ht, hdigest, rfl⟩ := ofDigest_eq_ok_iff.1 hd
  cases ht
  rw [hex, ← hdigest.length_eq, Text.hex_hexNumeral hdigest.digits]

/-- Thirty-two lower-case digits are read as the hash key that they are the text of. -/
theorem ofDigest_of_isHex {t : Text} (ht : Text.IsHex t) (hlength : t.length = digitCount) :
    ofDigest (.text t) = .ok (Text.hexNumeral t) ∧ hex (Text.hexNumeral t) = t := by
  have hstrip : Text.strip t = t :=
    Text.strip_eq_self fun c hc => Text.isBlank_of_isHexDigit (ht.isHexDigit c hc)
  have hread : ofDigest (.text t) = .ok (Text.hexNumeral t) :=
    ofDigest_eq_ok_iff.2 ⟨t, rfl, by rw [hstrip]; exact ⟨hlength, ht.isHexDigit⟩, by rw [hstrip]⟩
  refine ⟨hread, ?_⟩
  rw [hex_of_ofDigest hread, hstrip, ht.lowerAscii_eq]

/-- The text of a hash key is read as the hash key. -/
theorem ofDigest_hex {h : Nat} (hh : h < keyspaceSize) : ofDigest (.text (hex h)) = .ok h := by
  obtain ⟨hread, _⟩ :=
    ofDigest_of_isHex (Text.isHex_hex digitCount h) (Text.length_hex digitCount h)
  have hlt : h < Nat.pow 16 digitCount := hh
  obtain ⟨_, hnumeral⟩ := Text.hexValue?_eq_some_iff.1 (Text.hexValue?_hex hlt)
  rw [hnumeral] at hread
  exact hread

/-! ### From a key to its hash key -/

/-- A key with a UTF-8 form has a hash key, and its digest is the text of it. -/
theorem exists_digestOf_eq_hex {key : Text} (hk : Text.encodable key) :
    ∃ h, digestOf key = .ok (.text (hex h)) ∧ ofDigest (.text (hex h)) = .ok h := by
  have hdigest : digestOf key = .ok (.text (Md5.digest (key.flatMap Text.scalarBytes)).hex) := by
    rw [digestOf, Md5.ofText?, Text.utf8?, if_pos hk]
    rfl
  obtain ⟨hread, hwritten⟩ := ofDigest_of_isHex (Md5.isHex_hex _) (Md5.length_hex _)
  exact ⟨_, by rw [hwritten]; exact hdigest, by rw [hwritten]; exact hread⟩

/-- A key with a UTF-8 form has a digest, and the digest a hash key. -/
theorem digestOf_of_encodable {key : Text} (hk : Text.encodable key) :
    ∃ digest h, digestOf key = .ok (.text digest) ∧ ofDigest (.text digest) = .ok h := by
  obtain ⟨h, hdigest, hread⟩ := exists_digestOf_eq_hex hk
  exact ⟨_, h, hdigest, hread⟩

/-- A key without a UTF-8 form has no digest. -/
theorem digestOf_unencodable {key : Text} (hk : Text.encodable key = false) :
    digestOf key = .error (.unencodable key) := by
  rw [digestOf, Md5.ofText?, Text.utf8?, if_neg (by simp [hk])]
  rfl

/-! ### Digests and hash keys -/

/-- What is known of putting texts in lower case: it changes the capitals of an ASCII text and
    nothing else of it, and what it makes of a text beyond ASCII is not all base-16 digits. -/
structure LowerCasing (lower : Text → Text) : Prop where
  ascii : ∀ t : Text, (∀ c ∈ t, c < 128) → lower t = Text.lowerAscii t
  beyond : ∀ t : Text, (∃ c ∈ t, ¬ c < 128) → ∃ c ∈ lower t, c ∉ Text.hexAlphabet

theorem lowerCasing_lowerAscii : LowerCasing Text.lowerAscii := by
  refine ⟨fun _ _ => rfl, ?_⟩
  rintro t ⟨c, hc, hbeyond⟩
  have hmem : Text.lowerCodePoint c ∈ Text.lowerAscii t := List.mem_map_of_mem hc
  rw [Text.lowerCodePoint_of_ge hbeyond] at hmem
  exact ⟨c, hmem, fun h => hbeyond (Text.lt_of_mem_hexAlphabet h)⟩

/-- Thirty-two digits of either case are thirty-two digits of the alphabet when in lower case. -/
theorem isDigest_iff_lower {lower : Text → Text} (hl : LowerCasing lower) (t : Text) :
    IsDigest t ↔ (lower t).length = digitCount ∧ ∀ c ∈ lower t, c ∈ Text.hexAlphabet := by
  by_cases hascii : ∀ c ∈ t, c < 128
  · have hdigits : (∀ c ∈ Text.lowerAscii t, c ∈ Text.hexAlphabet) ↔
        ∀ c ∈ t, Text.IsHexDigit c := by
      refine List.forall_mem_map.trans (forall₂_congr fun c hc => ?_)
      exact (Text.isHexDigit_iff_lowerCodePoint (hascii c hc)).symm
    have hlength : (Text.lowerAscii t).length = t.length := List.length_map _
    rw [hl.ascii t hascii, hdigits, hlength]
    exact ⟨fun h => ⟨h.length_eq, h.digits⟩, fun h => ⟨h.1, h.2⟩⟩
  · push Not at hascii
    obtain ⟨c, hc, hge⟩ := hascii
    constructor
    · intro h
      exact absurd (Text.lt_of_isHexDigit (h.digits c hc)) (Nat.not_lt.2 hge)
    · rintro ⟨_, hdigits⟩
      obtain ⟨d, hd, hout⟩ := hl.beyond t ⟨c, hc, Nat.not_lt.2 hge⟩
      exact absurd (hdigits d hd) hout

/-- What was read, written as a hash key, is the digest in lower case without the blanks. -/
theorem hex_eq_lower {lower : Text → Text} (hl : LowerCasing lower) {t : Text} {h : Nat}
    (hd : ofDigest (.text t) = .ok h) : hex h = lower (Text.strip t) := by
  obtain ⟨_, ht, hdigest, _⟩ := ofDigest_eq_ok_iff.1 hd
  cases ht
  rw [hex_of_ofDigest hd, hl.ascii _ fun c hc => Text.lt_of_isHexDigit (hdigest.digits c hc)]

theorem hex_injective {g h : Nat} (hg : g < keyspaceSize) (hh : h < keyspaceSize)
    (he : hex g = hex h) : g = h := by
  have hread := ofDigest_hex hg
  rw [he, ofDigest_hex hh] at hread
  exact (Except.ok.inj hread).symm

/-- A digest is read exactly, and only if it is one; hash keys and lower-case digests are the same
    thing in two forms; and MD5 gives every key with a UTF-8 form the text of its hash key. -/
theorem digests_read_exactly {lower : Text → Text} (hl : LowerCasing lower) :
    (∀ v h, ofDigest v = .ok h ↔
        ∃ t, v = .text t ∧ IsDigest (Text.strip t) ∧ h = Text.hexNumeral (Text.strip t)) ∧
      (∀ t, IsDigest t ↔ (lower t).length = digitCount ∧ ∀ c ∈ lower t, c ∈ Text.hexAlphabet) ∧
      (∀ v h, ofDigest v = .ok h → h < keyspaceSize) ∧
      (∀ h < keyspaceSize, ofDigest (.text (hex h)) = .ok h) ∧
      (∀ t h, ofDigest (.text t) = .ok h → hex h = lower (Text.strip t)) ∧
      (∀ s t g h, ofDigest (.text s) = .ok g → ofDigest (.text t) = .ok h →
        (g = h ↔ lower (Text.strip s) = lower (Text.strip t))) ∧
      ∀ key, Text.encodable key →
        ∃ h, ofKey key = .ok h ∧ digestOf key = .ok (.text (hex h)) := by
  refine ⟨fun _ _ => ofDigest_eq_ok_iff, isDigest_iff_lower hl, fun _ _ => lt_of_ofDigest,
    fun _ => ofDigest_hex, fun _ _ => hex_eq_lower hl, ?_, ?_⟩
  · intro s t g h hs ht
    rw [← hex_eq_lower hl hs, ← hex_eq_lower hl ht]
    exact ⟨congrArg hex, hex_injective (lt_of_ofDigest hs) (lt_of_ofDigest ht)⟩
  · intro key hk
    obtain ⟨h, hdigest, hread⟩ := exists_digestOf_eq_hex hk
    refine ⟨h, ?_, hdigest⟩
    simp only [ofKey, hdigest, bind, Except.bind]
    exact hread

/-- The digest of the empty key with capitals and blanks around it, and the key itself. -/
theorem digests_read_exactly_capitals :
    LowerCasing Text.lowerAscii ∧
      ofDigest (.text (Text.lit "  D41D8CD98F00B204E9800998ECF8427E\n")) =
        .ok 0xD41D8CD98F00B204E9800998ECF8427E ∧
      hex 0xD41D8CD98F00B204E9800998ECF8427E = Text.lit "d41d8cd98f00b204e9800998ecf8427e" ∧
      Text.encodable [] ∧ ∃ h, ofKey [] = .ok h ∧ digestOf [] = .ok (.text (hex h)) := by
  obtain ⟨hread, _, _, _, hwritten, _, hkey⟩ := digests_read_exactly lowerCasing_lowerAscii
  have hstrip : Text.strip (Text.lit "  D41D8CD98F00B204E9800998ECF8427E\n") =
      Text.lit "D41D8CD98F00B204E9800998ECF8427E" := by decide
  have hcapitals : ofDigest (.text (Text.lit "  D41D8CD98F00B204E9800998ECF8427E\n")) =
      .ok 0xD41D8CD98F00B204E9800998ECF8427E := by
    refine (hread _ _).2 ⟨_, rfl, ?_⟩
    rw [hstrip]
    exact ⟨⟨by decide, by decide⟩, by decide +kernel⟩
  exact ⟨lowerCasing_lowerAscii, hcapitals, (hwritten _ _ hcapitals).trans (by decide), by decide,
    hkey [] (by decide)⟩

end HashKey

end Keyspace
