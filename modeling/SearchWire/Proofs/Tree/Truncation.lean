import Mathlib
import SearchWire.Message.Query
import SearchWire.Message.Score
import SearchWire.Message.Sort
import SearchWire.Proofs.Envelope
import SearchWire.Proofs.Tree.Written
import SearchWire.Tree.Descent

/-!
# Broken-off nodes

What is read from the bytes of a node when some of them are missing at the end. The kind takes up
two bytes. A cut inside of the kind or of the payload breaks off a field, which no reading survives;
no bytes at all say the code zero; and a cut between the two fields leaves a node without a payload,
which is one of the few whose messages may be empty (`Family.bare?`).
-/

namespace SearchWire

open Result

/-- The query of the given kind in which nothing is set, if nothing has to be. -/
def QueryKind.bare? : QueryKind → Option Query
  | matchAll => some MatchAllQuery.mk
  | bool => some ({} : BoolQuery)
  | functionsScore => some ({} : FunctionsScoreQuery)
  | _ => none

/-- The sorter of the given kind in which nothing is set, if nothing has to be. -/
def SorterKind.bare? : SorterKind → Option Sorter
  | score => some ({} : ScoreSort)
  | primaryKey => some ({} : PrimaryKeySort)
  | doc => some ({} : DocSort)
  | _ => none

/-- The node of the given kind in which nothing is set, if nothing has to be. -/
def Family.bare? : (f : Family) → f.Kind → Option (Node f)
  | query, k => QueryKind.bare? k
  | sorter, k => SorterKind.bare? k
  | groupBy, _ | aggregation, _ => none

lemma decode_message_nil (m : MessageType) :
    decode (.message m) [] = do
      let slots ← settleAll decode m m.slots []
      m.check slots
      return .record slots := by
  rw [decode_eq, readShape, readMessage, Reader.collect_start_nil]
  rfl

namespace Envelope

variable {f : Family}

lemma code_lt (k : f.Kind) : (WireEnum.code k).toInt64.toUInt64.toNat < 128 := by
  cases f <;> cases k <;> decide

/-- The kind of an envelope takes up two bytes. -/
lemma length_write_kind (k : f.Kind) : (Part.kind (WireEnum.code k)).field.write.length = 2 := by
  have hkey : Varint.write 8 = [8] := by
    rw [Varint.write, if_pos (by decide)]
    rfl
  have hcode : Varint.write (WireEnum.code k).toInt64.toUInt64.toNat =
      [UInt8.ofNat (WireEnum.code k).toInt64.toUInt64.toNat] := by
    rw [Varint.write, if_pos (code_lt k)]
  show (Varint.write 8 ++ Varint.write (WireEnum.code k).toInt64.toUInt64.toNat).length = 2
  rw [hkey, hcode]
  rfl

lemma write_eq (e : Envelope f) : e.write =
    (Part.kind (WireEnum.code e.kind)).field.write ++ (Part.payload e.payload).field.write := by
  show WireField.writeAll ([(Part.kind (WireEnum.code e.kind)).field] ++
    [(Part.payload e.payload).field]) = _
  rw [WireField.writeAll, List.flatMap_append, List.flatMap_singleton, List.flatMap_singleton]

lemma fits_kind (k : f.Kind) : (Part.kind (WireEnum.code k)).field.Fits :=
  ⟨(Part.isFieldNumber _).1, (Part.isFieldNumber _).2, trivial⟩

/-- The first bytes of an envelope, behind which it breaks off inside of a field. -/
lemma read_take {e : Envelope f} {n : Nat} (hn : n < e.write.length) (hcut : n = 1 ∨ 3 ≤ n) :
    ∃ fault, read f (e.write.take n) = .error (.malformed f.name (.framing fault)) := by
  have hkind := length_write_kind e.kind
  rw [write_eq] at hn ⊢
  rw [List.length_append, hkind] at hn
  rcases hcut with rfl | hcut
  -- inside the kind no field is left, and inside the payload only the kind
  · obtain ⟨fault, hfault⟩ := Reader.fields_writeAll_append_take (List.forall_mem_nil _)
      (fits_kind e.kind).isFieldNumber Nat.one_pos (by omega) f.name []
    rw [List.take_append_of_le_length (by omega)]
    exact ⟨fault, read_of_broken hfault (List.forall_mem_nil _)⟩
  · obtain ⟨fault, hfault⟩ := Reader.fields_writeAll_append_take
      (List.forall_mem_singleton.mpr (fits_kind e.kind)) (Part.payload e.payload).isFieldNumber
      (by omega : 0 < n - 2) (by omega) f.name []
    have hkindPart : IsPart (Part.kind (WireEnum.code e.kind)).field :=
      exists_field_eq_iff.mp ⟨_, rfl⟩
    rw [List.take_append, List.take_of_length_le (by omega), hkind, ← WireField.writeAll_singleton]
    exact ⟨fault, read_of_broken hfault (List.forall_mem_singleton.mpr hkindPart)⟩

/-- The first two bytes of an envelope are its kind, without a payload. -/
lemma read_take_two (e : Envelope f) : read f (e.write.take 2) = .ok ⟨e.kind, []⟩ := by
  have hkind := length_write_kind e.kind
  rw [write_eq, List.take_append_of_le_length (by omega), List.take_of_length_le (by omega),
    ← WireField.writeAll_singleton]
  have hbs := Reader.spellAll_writeAll (List.forall_mem_singleton.mpr (fits_kind e.kind))
  have hparts : Says ([Part.kind (WireEnum.code e.kind)].map Part.field) (WireEnum.code e.kind)
      [] := says_map_field_iff.mpr ⟨rfl, rfl⟩
  rw [read_eq_of_spellAll hbs hparts, WireEnum.ofCode?_code]

end Envelope

/-- A payload without bytes is read exactly where nothing has to be set. -/
lemma decodePayload_nil_eq_ok_iff {f : Family} {k : f.Kind} {w : Node f} :
    decodePayload f k [] = .ok w ↔ f.bare? k = some w := by
  rw [decodePayload, decode_message_nil]
  -- the slots of each kind settle by evaluation, to a node with nothing set or to an error
  cases f <;> cases k <;>
    exact ⟨fun h => (by cases h <;> rfl), fun h => (by cases h <;> rfl)⟩

/-- Of the bytes of a node, no first part is read as a node, but for the kind alone where a node of
this kind may have nothing set. -/
theorem decode_take {f : Family} {v : Node f} {bs : Bytes} {n : Nat} (h : encode v = .ok bs)
    (hn : n < bs.length) :
    (n = 0 → decode (.node f) (bs.take n) = .error (.unsupported f.kinds.title 0)) ∧
    (n = 2 → ∀ w, decode (.node f) (bs.take n) = .ok w ↔ f.bare? v.kind = some w) ∧
    (n = 1 ∨ 3 ≤ n → ∃ fault,
      decode (.node f) (bs.take n) = .error (.malformed f.name (.framing fault))) := by
  cases v with
  | node k payload =>
    obtain ⟨content, _, rfl⟩ := Tree.write_node_eq_ok_iff.mp h
    rw [decode_node_eq]
    refine ⟨?_, ?_, ?_⟩
    · rintro rfl
      have hparts : Envelope.Says ([].map Envelope.Part.field) 0 [] :=
        Envelope.says_map_field_iff.mpr ⟨rfl, rfl⟩
      rw [List.take_zero, Envelope.read_eq_of_spellAll .nil hparts, Envelope.ofCode?_zero]
      rfl
    · rintro rfl w
      rw [Envelope.read_take_two]
      exact decodePayload_nil_eq_ok_iff
    · intro hcut
      obtain ⟨fault, hfault⟩ := Envelope.read_take hn hcut
      refine ⟨fault, ?_⟩
      rw [hfault]
      rfl

/-- A combination of one query, cut off in front of its first byte, behind its kind, and behind the
kind of the query in it. -/
theorem decode_take_boolQuery :
    let bytes : Bytes := [8, 6, 18, 6, 10, 4, 8, 11, 18, 0]
    encode (BoolQuery.mk [Query.matchAll] [] [] [] none : Query) = .ok bytes ∧
    decode (.node .query) (bytes.take 0) = .error (.unsupported "QueryType" 0) ∧
    decode (.node .query) (bytes.take 2) =
      .ok (Tree.node QueryKind.bool (BoolQuery.toMessage {})) ∧
    ∃ fault, decode (.node .query) (bytes.take 8) =
      .error (.malformed "Query" (.framing fault)) := by
  intro bytes
  have hbytes : encode (BoolQuery.mk [Query.matchAll] [] [] [] none : Query) = .ok bytes := by cbv
  obtain ⟨hnone, _, _⟩ := decode_take hbytes (by decide : 0 < 10)
  obtain ⟨_, hkind, _⟩ := decode_take hbytes (by decide : 2 < 10)
  obtain ⟨_, _, hcut⟩ := decode_take hbytes (by decide : 8 < 10)
  exact ⟨hbytes, hnone rfl, (hkind rfl _).mpr rfl, hcut (by decide)⟩

end SearchWire
