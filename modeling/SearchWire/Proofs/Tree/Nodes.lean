import Mathlib
import SearchWire.Message.Query
import SearchWire.Proofs.Tree.Accepted
import SearchWire.Proofs.Wire.Length
import SearchWire.Tree.Descent

/-!
# Nodes and bytes

A short byte string is no large tree. Every node takes up bytes of its own, whichever of the fields
of its parent count: the fields that a slot is settled from belong to no other slot, so what the
slots hold is paid for by disjoint parts of the bytes (`tally_settleFields_le`). The number of nodes
and the depth of their nesting are counted in the same way, the parts of a message being added in
the one case and compared in the other (`Tree.tally`, `NodeBound`).
-/

namespace SearchWire

open Result

/-! ### Counting nodes -/

namespace Tree

/-- The nodes of the families in a tree, where `join` says what two parts of a message or a list
come to. -/
def tally (join : Nat → Nat → Nat) : {c : Code} → Tree c → Nat
  | _, record slots => slots.tally join
  | _, node _ payload => payload.tally join + 1
  | _, criterion _ payload => payload.tally join
  | _, nil => 0
  | _, cons head tail => join (head.tally join) (tail.tally join)
  | _, leaf _ => 0
  | _, unset => 0
  | _, child value => value.tally join
  | _, children values => values.tally join
  | _, noParam => 0
  | _, param _ payload => payload.tally join
  | _, empty => 0
  | _, item first rest => join (first.tally join) (rest.tally join)

/-- How many nodes of the families there are in a tree. -/
def nodeCount {c : Code} (t : Tree c) : Nat := t.tally (· + ·)

/-- The greatest number of nodes of the families on a path from the root of a tree. -/
def nodeDepth {c : Code} (t : Tree c) : Nat := t.tally max

end Tree

/-- How many bytes an envelope can save by leaving out an empty payload; other shapes leave out
nothing. -/
def Shape.saving : Shape → Nat
  | node _ => 2
  | message _ | criterion => 0

lemma Shape.saving_le (s : Shape) : s.saving ≤ 2 := by
  cases s <;> simp [saving]

/-- Nodes that are joined in the given way take up `rate` bytes each, except for `slack` bytes. An
envelope around a payload takes four bytes and may save two. -/
structure NodeBound (join : Nat → Nat → Nat) (rate slack : Nat) : Prop where
  join_le : ∀ {a b x y : Nat}, rate * a ≤ x + slack → rate * b ≤ y + slack →
    rate * join a b ≤ x + y + slack
  rate_le : rate ≤ 6
  rate_le_slack : rate ≤ slack + 4
  slack_lt : slack < rate

lemma nodeBound_count : NodeBound (· + ·) 4 0 where
  join_le := by intros; omega
  rate_le := by omega
  rate_le_slack := by omega
  slack_lt := by omega

lemma nodeBound_depth : NodeBound max 6 2 where
  join_le := by intros; omega
  rate_le := by omega
  rate_le_slack := by omega
  slack_lt := by omega

/-! ### Parts of a message -/

variable {join : Nat → Nat → Nat} {rate slack : Nat} {m : MessageType} {f : WireField}
  {fs : List WireField}

variable (join rate slack) in
/-- Whatever value a field holds as bytes, its nodes are paid for by the field. -/
def WireField.Pays (f : WireField) : Prop :=
  ∀ {content : Bytes} {s : Shape} {v : Value s}, f.value = .bytes content →
    decode s content = .ok v → rate * v.tally join ≤ f.leastLength + slack

lemma tally_le_of_mem (hpays : ∀ f ∈ fs, f.Pays join rate slack) (hf : f ∈ fs) {content : Bytes}
    (hvalue : f.value = .bytes content) {s : Shape} {v : Value s} (hv : decode s content = .ok v) :
    rate * v.tally join ≤ WireField.leastLengths fs + slack := by
  have hle := hpays f hf hvalue hv
  have hlength := WireField.leastLength_le hf
  omega

/-- The nodes in a list of children are paid for by the fields of the list. -/
lemma tally_ofList_le (hB : NodeBound join rate slack) {s : Shape} {vs : List (Value s)}
    {item? : WireField → Option (Value s)} (hitems : fs.filterMap item? = vs)
    (hpays : ∀ f ∈ fs, ∀ v, item? f = some v → rate * v.tally join ≤ f.leastLength + slack) :
    rate * (Tree.ofList vs).tally join ≤ WireField.leastLengths fs + slack := by
  induction fs generalizing vs with
  | nil =>
    subst hitems
    exact Nat.zero_le _
  | cons f fs ih =>
    obtain ⟨hf, hfs⟩ := List.forall_mem_cons.mp hpays
    have hrest := ih rfl hfs
    rw [WireField.leastLengths, List.map_cons, List.sum_cons]
    cases hitem : item? f with
    | none =>
      rw [List.filterMap_cons_none hitem] at hitems
      subst hitems
      rw [WireField.leastLengths] at hrest
      omega
    | some v =>
      rw [List.filterMap_cons_some hitem] at hitems
      subst hitems
      exact hB.join_le (hf v hitem) hrest

/-- The nodes in a slot are paid for by the fields of the message. -/
lemma Slot.tally_settle_le (hB : NodeBound join rate slack)
    (hpays : ∀ f ∈ fs, f.Pays join rate slack) {s : Slot} {t : Tree (.slot m s)}
    (h : s.settle decode m (s.items m fs) = .ok t) :
    rate * t.tally join ≤ WireField.leastLengths fs + slack := by
  cases s with
  | leaf tag l =>
    rw [settle] at h
    split at h <;> cases h
    exact Nat.zero_le _
  | child tag s required =>
    rw [settle] at h
    split at h
    · rename_i v hlast
      cases h
      obtain ⟨f, hf, hitem⟩ := List.mem_filterMap.mp (List.mem_of_getLast? hlast)
      obtain ⟨content, hvalue, hv⟩ := readChild_eq_ok_iff.mp (item?_eq_some_iff.mp hitem).2
      exact tally_le_of_mem hpays hf hvalue hv
    · split at h <;> cases h
      exact Nat.zero_le _
  | children tag s =>
    cases h
    refine tally_ofList_le hB rfl ?_
    intro f hf v hitem
    obtain ⟨content, hvalue, hv⟩ := readChild_eq_ok_iff.mp (item?_eq_some_iff.mp hitem).2
    exact hpays f hf hvalue hv
  | decayParam kind content =>
    rw [settle] at h
    split at h
    · cases h
    · split at h
      · cases h
      · rename_i bs hlast
        simp only [bind_eq_ok_iff, within_eq_ok_iff, pure_eq_ok_iff] at h
        obtain ⟨payload, hpayload, rfl⟩ := h
        obtain ⟨item, hmem, hright⟩ := List.mem_filterMap.mp (List.mem_of_getLast? hlast)
        obtain ⟨f, hf, hitem⟩ := List.mem_filterMap.mp hmem
        obtain rfl := Sum.getRight?_eq_some_iff.mp hright
        obtain ⟨_, hvalue⟩ := readItem_eq_ok_inr_iff.mp (item?_eq_some_iff.mp hitem).2
        exact tally_le_of_mem hpays hf hvalue hpayload

/-- The nodes in all slots together are paid for by the fields of the message. -/
lemma tally_settleFields_le (hB : NodeBound join rate slack) {ss : List Slot}
    (hss : RegularLayout m ss) (hpays : ∀ f ∈ fs, f.Pays join rate slack) {t : Tree (.slots m ss)}
    (h : settleFields m ss fs = .ok t) :
    rate * t.tally join ≤ WireField.leastLengths fs + slack := by
  induction ss generalizing fs with
  | nil =>
    cases h
    exact Nat.zero_le _
  | cons s ss ih =>
    -- the fields of the first slot pay for it, and the others for the slots behind
    rw [settleFields, ← Slot.items_filter (fun _ hf => hf), ← settleFields_filter hss] at h
    simp only [bind_eq_ok_iff, pure_eq_ok_iff] at h
    obtain ⟨head, hhead, tail, htail, rfl⟩ := h
    have hfirst := Slot.tally_settle_le hB (fun f hf => hpays f (List.mem_filter.mp hf).1) hhead
    have hrest := ih hss.tail (fun f hf => hpays f (List.mem_filter.mp hf).1) htail
    rw [← WireField.leastLengths_filter_add (fun f => s.accepts f.number) fs]
    exact hB.join_le hfirst hrest

/-! ### Shapes -/

lemma Envelope.code_ne_zero {f : Family} (k : f.Kind) : WireEnum.code k ≠ 0 := by
  intro h
  have hzero := WireEnum.ofCode?_code k
  rw [h, ofCode?_zero] at hzero
  cases hzero

/-- An envelope takes four bytes around its payload, or two where it leaves out an empty one. -/
lemma Envelope.length_of_says {bs content : Bytes} {f : Family} {k : f.Kind}
    (hbs : WireField.SpellAll bs fs) (h : Says fs (WireEnum.code k) content) :
    content.length + 4 ≤ bs.length ∨ content = [] ∧ 2 ≤ bs.length := by
  have hlength := hbs.leastLengths_le
  obtain ⟨x, hx, hxnumber⟩ : ∃ x ∈ fs, x.number = 1 := by
    cases hkind : WireField.last? 1 fs with
    | some v => exact ⟨_, WireField.mem_of_last?_eq_some hkind, rfl⟩
    | none =>
      have hcode : (WireField.last? 1 fs).getD (.varint (0 : Int32).toInt64.toUInt64) = _ := h.kind
      rw [hkind, Option.getD_none] at hcode
      exact absurd (varint_injective hcode).symm (code_ne_zero k)
  have hleast := x.two_le_leastLength
  cases hpayload : WireField.last? 2 fs with
  | none =>
    have hcontent := h.payload
    rw [hpayload] at hcontent
    cases hcontent
    have hle := WireField.leastLength_le hx
    exact .inr ⟨rfl, by omega⟩
  | some v =>
    have hcontent := h.payload
    rw [hpayload, Option.getD_some] at hcontent
    subst hcontent
    have hy := WireField.mem_of_last?_eq_some hpayload
    have hne : x ≠ ⟨2, .bytes content⟩ := by
      rintro rfl
      cases hxnumber
    have hle := WireField.leastLength_add_le hx hy hne
    rw [WireField.leastLength_of_bytes (f := ⟨2, .bytes content⟩) rfl] at hle
    exact .inl (by omega)

/-- The nodes in a value are paid for by its bytes. -/
lemma tally_le_of_decode (hB : NodeBound join rate slack) {s : Shape} {bs : Bytes} {v : Value s}
    (h : decode s bs = .ok v) : rate * v.tally join ≤ bs.length + slack + s.saving := by
  induction hn : bs.length using Nat.strong_induction_on generalizing s bs with
  | _ n ih =>
    subst hn
    cases s with
    | message m =>
      obtain ⟨fs, hbs, _, slots, hslots, _, rfl⟩ := decode_message_eq_ok_iff.mp h
      have hlength := hbs.leastLengths_le
      have hpays : ∀ f ∈ fs, f.Pays join rate slack := by
        intro f hf content s v hvalue hv
        have hfield := WireField.leastLength_of_bytes hvalue
        have hle := WireField.leastLength_le hf
        have hchild := ih content.length (by omega) hv rfl
        have hsaving := s.saving_le
        omega
      have hle := tally_settleFields_le hB m.regular hpays hslots
      show rate * slots.tally join ≤ bs.length + slack + 0
      omega
    | node f =>
      obtain ⟨fs, k, content, payload, hbs, hsays, hpayload, rfl⟩ := decode_node_eq_ok_iff.mp h
      show rate * (payload.tally join + 1) ≤ bs.length + slack + 2
      rcases Envelope.length_of_says hbs hsays with hlength | ⟨rfl, hlength⟩
      · have hle : rate * payload.tally join ≤ content.length + slack + 0 :=
          ih content.length (by omega) hpayload rfl
        have hrate := hB.rate_le
        rw [Nat.mul_succ]
        omega
      · have hle : rate * payload.tally join ≤ 0 + slack + 0 := ih 0 (by omega) hpayload rfl
        have hslack := hB.slack_lt
        have hrate := hB.rate_le_slack
        have hzero : payload.tally join = 0 := by
          have hlt : rate * payload.tally join < rate * 1 := by omega
          exact Nat.lt_one_iff.mp (Nat.lt_of_mul_lt_mul_left hlt)
        rw [hzero]
        omega
    | criterion =>
      obtain ⟨k, content, payload, hbs, hpayload, rfl⟩ := decode_criterion_eq_ok_iff.mp h
      have hlength := hbs.leastLengths_le
      have hfield : WireField.leastLengths [⟨k.tag.number, .bytes content⟩] = content.length + 2 :=
        rfl
      have hle : rate * payload.tally join ≤ content.length + slack + 0 :=
        ih content.length (by omega) hpayload rfl
      show rate * payload.tally join ≤ bs.length + slack + 0
      omega

/-! ### Nesting -/

/-- Decoding that goes at most so many levels deep, and leaves to `beyond` what is deeper. -/
def decodeWithin (beyond : (s : Shape) → Bytes → Result (Value s)) :
    Nat → (s : Shape) → Bytes → Result (Value s)
  | 0 => beyond
  | levels + 1 => readShape (decodeWithin beyond levels)

/-- Bytes are never read more levels deep than there are bytes. -/
lemma decodeWithin_eq (beyond : (s : Shape) → Bytes → Result (Value s)) {levels : Nat} (s : Shape)
    {bs : Bytes} (h : bs.length < levels) : decodeWithin beyond levels s bs = decode s bs := by
  induction levels generalizing s bs with
  | zero => exact absurd h (Nat.not_lt_zero _)
  | succ levels ih =>
    rw [decodeWithin, decode_eq]
    refine readShape_congr ?_ s bs (Nat.le_refl _)
    intro s' content hlt
    exact ih s' (by omega)

/-! ### Main result -/

/-- Whatever bytes a node is decoded from, there are at least four of them for each node in it, if
two are lent, and at least six for each level of nesting, if four are lent. Decoding itself goes no
more levels deep than there are bytes, also where it ends in an error. -/
theorem nodes_of_decode (f : Family) (bs : Bytes) :
    (∀ v, decode (.node f) bs = .ok v →
      4 * v.nodeCount ≤ bs.length + 2 ∧ 6 * v.nodeDepth ≤ bs.length + 4) ∧
    (∀ (beyond : (s : Shape) → Bytes → Result (Value s)) (levels : Nat), bs.length < levels →
      decodeWithin beyond levels (.node f) bs = decode (.node f) bs) := by
  constructor
  · intro v h
    have hcount := tally_le_of_decode nodeBound_count h
    have hdepth := tally_le_of_decode nodeBound_depth h
    exact ⟨hcount, hdepth⟩
  · intro beyond levels h
    exact decodeWithin_eq beyond (.node f) h

/-- A query around another one, in as few bytes as two nested nodes can take. -/
theorem nodes_of_decode_constScore :
    decode (.node .query) [8, 7, 18, 4, 10, 2, 8, 11] =
        .ok (ConstScoreQuery.of Query.matchAll : Query) ∧
      (ConstScoreQuery.of Query.matchAll : Query).nodeCount = 2 ∧
      (ConstScoreQuery.of Query.matchAll : Query).nodeDepth = 2 ∧
      4 * (ConstScoreQuery.of Query.matchAll : Query).nodeCount ≤ 8 + 2 ∧
      6 * (ConstScoreQuery.of Query.matchAll : Query).nodeDepth ≤ 8 + 4 ∧
      decodeWithin (fun s _ => .error (.malformed s.name (.framing .underflow))) 9 (.node .query)
        [8, 7, 18, 4, 10, 2, 8, 11] = .ok (ConstScoreQuery.of Query.matchAll : Query) := by
  have hread : decode (.node .query) [8, 7, 18, 4, 10, 2, 8, 11] =
      .ok (ConstScoreQuery.of Query.matchAll : Query) := by cbv
  obtain ⟨hnodes, hwithin⟩ := nodes_of_decode .query [8, 7, 18, 4, 10, 2, 8, 11]
  obtain ⟨hcount, hdepth⟩ := hnodes _ hread
  refine ⟨hread, rfl, rfl, hcount, hdepth, ?_⟩
  rw [hwithin _ 9 (by decide), hread]

end SearchWire
