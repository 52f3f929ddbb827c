import Mathlib
import SearchWire.Codec
import SearchWire.Proofs.Tree.RoundTrip

/-!
# Size limits

What the limit of a codec changes, and what it does not. Encoding is limited behind the check of the
value and decoding in front of the bytes, so the limit decides alone whether a message is too long
(`Codec.encode_eq_ok_iff`, `Codec.decode_of_lt`) and nothing else (`Codec.encode_of_error`,
`Codec.decode_of_le`). A codec with a greater limit therefore answers like one with a smaller limit,
wherever that one did not find a message too large.
-/

namespace SearchWire.Codec

open Result

variable {c c' : Codec} {s : Shape} {v : Value s} {bs : Bytes} {size : Nat}

/-! ### The check -/

lemma checkSize_of_le (h : size ≤ c.config.maxMessageSize) : c.checkSize size = .ok () := by
  rw [checkSize, if_neg (Nat.not_lt.mpr h)]

lemma checkSize_of_lt (h : c.config.maxMessageSize < size) :
    c.checkSize size = .error (.tooLarge size c.config.maxMessageSize) := by
  rw [checkSize, if_pos h]

/-! ### Encoding -/

/-- What cannot be encoded fails alike under every limit. -/
lemma encode_of_error {e : Error} (h : SearchWire.encode v = .error e) : c.encode v = .error e := by
  rw [encode, h]
  rfl

/-- A limit below the length of the bytes is reported with that length. -/
lemma encode_of_lt (h : SearchWire.encode v = .ok bs) (hlt : c.config.maxMessageSize < bs.length) :
    c.encode v = .error (.tooLarge bs.length c.config.maxMessageSize) := by
  rw [encode, h]
  show (do c.checkSize bs.length; return bs) = _
  rw [checkSize_of_lt hlt]
  rfl

/-- A value is encoded under a limit exactly when its bytes are not longer than the limit. -/
lemma encode_eq_ok_iff :
    c.encode v = .ok bs ↔ SearchWire.encode v = .ok bs ∧ bs.length ≤ c.config.maxMessageSize := by
  constructor
  · intro h
    cases henc : SearchWire.encode v with
    | error e =>
      rw [encode_of_error henc] at h
      cases h
    | ok bs' =>
      by_cases hle : bs'.length ≤ c.config.maxMessageSize
      · rw [encode, henc] at h
        simp only [bind_eq_ok_iff, pure_eq_ok_iff, Except.ok.injEq] at h
        obtain ⟨_, rfl, _, _, rfl⟩ := h
        exact ⟨rfl, hle⟩
      · rw [encode_of_lt henc (Nat.lt_of_not_le hle)] at h
        cases h
  · rintro ⟨henc, hle⟩
    rw [encode, henc]
    show (do c.checkSize bs.length; return bs) = _
    rw [checkSize_of_le hle]
    rfl

/-! ### Decoding -/

/-- Bytes that are not longer than the limit are read as they are without one. -/
lemma decode_of_le (h : bs.length ≤ c.config.maxMessageSize) :
    c.decode s bs = SearchWire.decode s bs := by
  rw [decode, checkSize_of_le h]
  rfl

/-- Bytes that are longer than the limit are refused, whatever they are. -/
lemma decode_of_lt (h : c.config.maxMessageSize < bs.length) :
    c.decode s bs = .error (.tooLarge bs.length c.config.maxMessageSize) := by
  rw [decode, checkSize_of_lt h]
  rfl

/-! ### Main result -/

/-- Two codecs with ordered limits answer alike wherever the smaller limit finds nothing too large.
What a codec encodes it decodes, as the value that is read back without a limit (no byte string in
memory is so long that its length does not fit 64 bits). Bytes above the limit are refused whatever
they are, and a value that cannot be encoded has the same error under every limit. -/
theorem answers_of_limit_le (h : c.config.maxMessageSize ≤ c'.config.maxMessageSize) (s : Shape) :
    (∀ v : Value s, (∀ size limit, c.encode v ≠ .error (.tooLarge size limit)) →
      c'.encode v = c.encode v) ∧
    (∀ bs, (∀ size limit, c.decode s bs ≠ .error (.tooLarge size limit)) →
      c'.decode s bs = c.decode s bs) ∧
    (∀ (v : Value s) bs, c.encode v = .ok bs → c.decode s bs = SearchWire.decode s bs ∧
      (bs.length < UInt64.size → c.decode s bs = .ok v.withDefaults)) ∧
    (∀ bs, c.config.maxMessageSize < bs.length →
      c.decode s bs = .error (.tooLarge bs.length c.config.maxMessageSize)) ∧
    ∀ (v : Value s) e, SearchWire.encode v = .error e → c.encode v = .error e := by
  refine ⟨?_, ?_, ?_, fun bs => decode_of_lt, fun v e => encode_of_error⟩
  · intro v hsmall
    cases henc : SearchWire.encode v with
    | error e => rw [encode_of_error henc, encode_of_error henc]
    | ok bs =>
      have hle : bs.length ≤ c.config.maxMessageSize := by
        by_contra hlt
        exact hsmall _ _ (encode_of_lt henc (Nat.lt_of_not_le hlt))
      rw [encode_eq_ok_iff.mpr ⟨henc, hle⟩, encode_eq_ok_iff.mpr ⟨henc, hle.trans h⟩]
  · intro bs hsmall
    have hle : bs.length ≤ c.config.maxMessageSize := by
      by_contra hlt
      exact hsmall _ _ (decode_of_lt (Nat.lt_of_not_le hlt))
    rw [decode_of_le hle, decode_of_le (hle.trans h)]
  · intro v bs henc
    obtain ⟨hbs, hle⟩ := encode_eq_ok_iff.mp henc
    refine ⟨decode_of_le hle, fun hlength => ?_⟩
    rw [decode_of_le hle]
    exact decode_encode hbs hlength

/-- Under a limit of just as many bytes as a prefix query takes, and under a greater one: the query
is written and comes back with its weight, one byte more is refused whatever it is, and a query
without a field is incomplete. -/
theorem answers_of_limit_le_prefixQuery :
    let bs : Bytes := [8, 5, 18, 11, 10, 1, 97, 18, 1, 98, 29, 0, 0, 128, 63]
    let c : Codec := ⟨{ maxMessageSize := 15 }⟩
    let c' : Codec := ⟨{ maxMessageSize := 16, logPayloads := true }⟩
    c.encode (PrefixQuery.of "a" "b" : Query) = .ok bs ∧
      c'.encode (PrefixQuery.of "a" "b" : Query) = .ok bs ∧
      c.decode (.node .query) bs = .ok (PrefixQuery.mk "a" "b" (.of .one)) ∧
      c.decode (.node .query) (255 :: bs) = .error (.tooLarge 16 15) ∧
      c.encode ({} : ExistsQuery).toMessage = .error (.required [] "ExistsQuery" "fieldName") := by
  intro bs c c'
  have hle : c.config.maxMessageSize ≤ c'.config.maxMessageSize := by decide
  obtain ⟨hencode, _, hback, hlong, _⟩ := answers_of_limit_le hle (.node .query)
  obtain ⟨_, _, _, _, herror⟩ := answers_of_limit_le hle (.message .existsQuery)
  have hbytes : c.encode (PrefixQuery.of "a" "b" : Query) = .ok bs := by cbv
  have hsmall : ∀ size limit,
      c.encode (PrefixQuery.of "a" "b" : Query) ≠ .error (.tooLarge size limit) := by
    intro size limit h
    rw [hbytes] at h
    cases h
  refine ⟨hbytes, (hencode _ hsmall).trans hbytes, (hback _ _ hbytes).2 (by decide),
    hlong (255 :: bs) (by decide), herror _ _ (by cbv)⟩

end SearchWire.Codec
