import SchemaNaming.Proofs.NormalForm

namespace SchemaNaming

/-!
# Labels in UTF-8

PHP reads a label byte by byte: `[A-Za-z_\x80-\xff][A-Za-z0-9_\x80-\xff]*`.  The bytes of a code
point beyond ASCII all lie in the upper half, whichever of them comes first, so the grammar of
labels by code points and the one by bytes agree on every text that can be encoded.

* `Text.utf8?` — the encoding of a text;
* `isByteLabel` — the grammar of labels by bytes;
* `isByteLabel_utf8` — the two grammars agree;
* `normalize_label_grammar` — every name that is not refused is a label in both.
-/

/-- The UTF-8 encoding of a text, unless it holds a surrogate. -/
def Text.utf8? (t : Text) : Option (List UInt8) := t.toString?.map fun s => s.toUTF8.data.toList

/-- A label may start with the byte: `[A-Za-z_\x80-\xff]`. -/
def isByteLabelStart (b : UInt8) : Bool :=
  (0x41 ≤ b && b ≤ 0x5A) || (0x61 ≤ b && b ≤ 0x7A) || b == 0x5F || 0x80 ≤ b

/-- A label may go on with the byte: `[A-Za-z0-9_\x80-\xff]`. -/
def isByteLabelPart (b : UInt8) : Bool := isByteLabelStart b || (0x30 ≤ b && b ≤ 0x39)

/-- The grammar of labels by bytes. -/
def isByteLabel : List UInt8 → Bool
  | [] => false
  | b :: rest => isByteLabelStart b && rest.all isByteLabelPart

/-! ### Bytes of one character -/

/-- A byte of the upper half may stand everywhere in a label. -/
theorem isByteLabelStart_of_le {b : UInt8} (h : 0x80 ≤ b.toNat) : isByteLabelStart b = true := by
  simp only [isByteLabelStart, Bool.or_eq_true, decide_eq_true_eq, UInt8.le_iff_toNat_le]
  exact Or.inr h

/-- A label may hold every byte beyond ASCII. -/
theorem isByteLabelPart_of_le {b : UInt8} (h : 0x80 ≤ b.toNat) : isByteLabelPart b = true := by
  rw [isByteLabelPart, isByteLabelStart_of_le h, Bool.true_or]

/-- An ASCII character is its own byte. -/
theorem utf8EncodeChar_of_lt {c : Char} (h : c.toNat < 0x80) :
    String.utf8EncodeChar c = [UInt8.ofNat c.toNat] :=
  if_pos (Nat.le_of_lt_succ h)

/-- Every byte of a character beyond ASCII lies in the upper half. -/
theorem le_of_mem_utf8EncodeChar {c : Char} (h : 0x80 ≤ c.toNat) :
    ∀ b ∈ String.utf8EncodeChar c, 0x80 ≤ b.toNat := by
  have hc : ¬ c.val.toNat ≤ 0x7F := by
    have : c.val.toNat = c.toNat := rfl
    omega
  intro b hb
  simp only [String.utf8EncodeChar, if_neg hc] at hb
  split at hb
  · simp only [List.mem_cons, List.not_mem_nil, or_false] at hb
    rcases hb with rfl | rfl <;> simp only [UInt8.toNat_ofNat'] <;> omega
  · split at hb
    · simp only [List.mem_cons, List.not_mem_nil, or_false] at hb
      rcases hb with rfl | rfl | rfl <;> simp only [UInt8.toNat_ofNat'] <;> omega
    · simp only [List.mem_cons, List.not_mem_nil, or_false] at hb
      rcases hb with rfl | rfl | rfl | rfl <;> simp only [UInt8.toNat_ofNat'] <;> omega

/-- On ASCII the byte decides like the code point. -/
theorem isByteLabelStart_ofNat {c : Char} (h : c.toNat < 0x80) :
    isByteLabelStart (UInt8.ofNat c.toNat) = (CodePoint.ofChar c).isLabelStart := by
  have hb : (UInt8.ofNat c.toNat).toNat = c.toNat := by
    rw [UInt8.toNat_ofNat']
    omega
  rw [Bool.eq_iff_iff, CodePoint.isLabelStart_iff, CodePoint.isPlainStart_iff,
    CodePoint.isExtended_iff, CodePoint.val_ofChar]
  simp only [isByteLabelStart, Bool.or_eq_true, Bool.and_eq_true, decide_eq_true_eq, beq_iff_eq,
    UInt8.le_iff_toNat_le, ← UInt8.toNat_inj, hb, UInt8.reduceToNat]
  omega

/-- A character of ASCII may stand in a label exactly if its byte may. -/
theorem isByteLabelPart_ofNat {c : Char} (h : c.toNat < 0x80) :
    isByteLabelPart (UInt8.ofNat c.toNat) = (CodePoint.ofChar c).isLabelChar := by
  have hb : (UInt8.ofNat c.toNat).toNat = c.toNat := by
    rw [UInt8.toNat_ofNat']
    omega
  rw [isByteLabelPart, isByteLabelStart_ofNat h, Bool.eq_iff_iff, CodePoint.isLabelChar_iff,
    CodePoint.isAsciiDigit_iff, CodePoint.val_ofChar]
  simp only [Bool.or_eq_true, Bool.and_eq_true, decide_eq_true_eq, UInt8.le_iff_toNat_le, hb,
    UInt8.reduceToNat]

/-! ### The two grammars -/

/-- The bytes of a character may go on a label exactly when the character may. -/
theorem all_isByteLabelPart_utf8EncodeChar (c : Char) :
    (String.utf8EncodeChar c).all isByteLabelPart = (CodePoint.ofChar c).isLabelChar := by
  by_cases h : c.toNat < 0x80
  · rw [utf8EncodeChar_of_lt h, List.all_cons, List.all_nil, Bool.and_true, isByteLabelPart_ofNat h]
  · have hext : (CodePoint.ofChar c).isExtended = true :=
      CodePoint.isExtended_iff.mpr (Nat.le_of_not_lt h)
    rw [CodePoint.isLabelChar_iff.mpr (Or.inl (CodePoint.isLabelStart_iff.mpr (Or.inr hext))),
      List.all_eq_true]
    intro b hb
    exact isByteLabelPart_of_le (le_of_mem_utf8EncodeChar (Nat.le_of_not_lt h) b hb)

/-- The bytes of some characters may stand in a label exactly if the characters may. -/
theorem all_isByteLabelPart_utf8Encode (l : List Char) :
    (l.flatMap String.utf8EncodeChar).all isByteLabelPart
      = (l.map CodePoint.ofChar).all CodePoint.isLabelChar := by
  induction l with
  | nil => rfl
  | cons c l ih =>
    rw [List.flatMap_cons, List.all_append, all_isByteLabelPart_utf8EncodeChar, ih, List.map_cons,
      List.all_cons]

/-- A label starts with the bytes of a character exactly when it may start with the character. -/
theorem isByteLabel_append_utf8EncodeChar (c : Char) (rest : List UInt8) :
    isByteLabel (String.utf8EncodeChar c ++ rest)
      = ((CodePoint.ofChar c).isLabelStart && rest.all isByteLabelPart) := by
  by_cases h : c.toNat < 0x80
  · rw [utf8EncodeChar_of_lt h, List.singleton_append, isByteLabel, isByteLabelStart_ofNat h]
  · have hext : (CodePoint.ofChar c).isExtended = true :=
      CodePoint.isExtended_iff.mpr (Nat.le_of_not_lt h)
    have hle := le_of_mem_utf8EncodeChar (Nat.le_of_not_lt h)
    have hparts := all_isByteLabelPart_utf8EncodeChar c
    rw [CodePoint.isLabelChar_iff.mpr (Or.inl (CodePoint.isLabelStart_iff.mpr (Or.inr hext)))]
      at hparts
    rw [CodePoint.isLabelStart_iff.mpr (Or.inr hext), Bool.true_and]
    -- the first byte may start a label, and the other bytes of the character may go on
    cases hbytes : String.utf8EncodeChar c with
    | nil => exact absurd hbytes String.utf8EncodeChar_ne_nil
    | cons b bytes =>
      rw [hbytes, List.all_cons, Bool.and_eq_true] at hparts
      rw [hbytes] at hle
      rw [List.cons_append, isByteLabel, List.all_append, hparts.2, Bool.true_and,
        isByteLabelStart_of_le (hle b List.mem_cons_self), Bool.true_and]

/-- The grammars by code points and by bytes agree on every string. -/
theorem isByteLabel_utf8 (s : String) :
    isByteLabel s.toUTF8.data.toList = (Text.ofString s).isLabel := by
  have hbytes : s.toUTF8.data.toList = s.toList.flatMap String.utf8EncodeChar := by
    rw [String.toUTF8_eq_toByteArray, ← String.utf8Encode_toList, List.utf8Encode,
      List.toList_data_toByteArray]
  rw [hbytes, Text.ofString]
  cases s.toList with
  | nil => rfl
  | cons c l =>
    rw [List.flatMap_cons, isByteLabel_append_utf8EncodeChar, all_isByteLabelPart_utf8Encode,
      List.map_cons, Text.isLabel]

/-! ### Encodable texts -/

/-- A code point that is no surrogate is a character. -/
theorem CodePoint.exists_ofChar {c : CodePoint} (h : c.isSurrogate = false) :
    ∃ d : Char, ofChar d = c := by
  have hlt := c.lt
  have hvalid : c.val.isValidChar := by
    simp only [isSurrogate, Bool.and_eq_false_iff, decide_eq_false_iff_not] at h
    unfold Nat.isValidChar
    omega
  refine ⟨Char.ofNat c.val, ?_⟩
  ext
  rw [val_ofChar, Char.ofNat, dif_pos hvalid]
  rfl

namespace Text

/-- A text without surrogates is the text of a string. -/
theorem exists_ofString {t : Text} (h : ∀ c ∈ t, c.isSurrogate = false) :
    ∃ s, ofString s = t := by
  induction t with
  | nil => exact ⟨"", rfl⟩
  | cons c t ih =>
    rw [List.forall_mem_cons] at h
    obtain ⟨d, rfl⟩ := CodePoint.exists_ofChar h.1
    obtain ⟨s, rfl⟩ := ih h.2
    refine ⟨String.ofList (d :: s.toList), ?_⟩
    rw [ofString, String.toList_ofList, List.map_cons, ofString]

/-- A text without surrogates can be encoded, and its bytes are a label exactly when it is one. -/
theorem exists_utf8?_isByteLabel {t : Text} (h : ∀ c ∈ t, c.isSurrogate = false) :
    ∃ bytes, t.utf8? = some bytes ∧ (t.isLabel = true ↔ isByteLabel bytes = true) := by
  obtain ⟨s, rfl⟩ := exists_ofString h
  refine ⟨s.toUTF8.data.toList, ?_, ?_⟩
  · rw [utf8?, toString?_ofString, Option.map_some]
  · rw [isByteLabel_utf8]

end Text

/-- **Names are labels.**  A name that is not refused is an identifier without surrogates, and its
    bytes are a label; and the two grammars of labels agree on all texts without surrogates. -/
theorem normalize_label_grammar :
    (∀ (raw : RawValue) (namePrefix name : Text), raw.normalize namePrefix = .ok name →
      name.isIdentifier true = true ∧ (∀ c ∈ name, c.isSurrogate = false) ∧
        ∃ bytes, name.utf8? = some bytes ∧ isByteLabel bytes = true) ∧
    ∀ t : Text, (∀ c ∈ t, c.isSurrogate = false) →
      ∃ bytes, t.utf8? = some bytes ∧ (t.isLabel = true ↔ isByteLabel bytes = true) := by
  refine ⟨fun raw namePrefix name h => ?_, fun t h => Text.exists_utf8?_isByteLabel h⟩
  have hid := RawValue.isIdentifier_of_normalize h
  have hsurr := Text.isSurrogate_of_mem_isIdentifier hid
  obtain ⟨bytes, hbytes, hiff⟩ := Text.exists_utf8?_isByteLabel hsurr
  exact ⟨hid, hsurr, bytes, hbytes, hiff.mp (Text.isLabel_of_isIdentifier hid)⟩

/-- A name that is led by a prefix with an invisible character. -/
theorem normalize_label_grammar_led :
    (RawValue.text "1类 名").normalize "\u200b_" = .ok "_1类名" ∧
    (Text.isIdentifier "_1类名" true = true ∧ (∀ c ∈ ("_1类名" : Text), c.isSurrogate = false) ∧
      ∃ bytes, Text.utf8? "_1类名" = some bytes ∧ isByteLabel bytes = true) ∧
    ∃ bytes, Text.utf8? "_1类名" = some bytes ∧
      (Text.isLabel "_1类名" = true ↔ isByteLabel bytes = true) := by
  have hname : (RawValue.text "1类 名").normalize "\u200b_" = .ok "_1类名" := by rfl
  have hlabel := normalize_label_grammar.1 _ _ _ hname
  exact ⟨hname, hlabel, normalize_label_grammar.2 _ hlabel.2.1⟩

end SchemaNaming
