import SearchWire.Tree.Decoding

/-!
# Descent

A child is read from fewer bytes than the message that holds it. So the answer of one level of
reading depends only on how shorter byte strings are read (`readShape_congr`), and decoding is one
level of reading with decoding for the children (`decode_eq`).
-/

namespace SearchWire

/-- What an item says as bytes that are still to be read is shorter than `n` bytes. -/
def Slot.Item.Below (n : Nat) : {s : Slot} → s.Item → Prop
  | .decayParam _ _, .inr content => content.length < n
  | .decayParam _ _, .inl _ => True
  | .leaf _ _, _ | .child _ _ _, _ | .children _ _, _ => True

/-- What an entry says as bytes that are still to be read is shorter than `n` bytes. -/
def Entry.Below (n : Nat) : {ss : List Slot} → Entry ss → Prop
  | _, here x => Slot.Item.Below n x
  | _, there e => e.Below n

section

variable {child child' : (s : Shape) → Bytes → Result (Value s)} {n : Nat}
  (agree : ∀ s (content : Bytes), content.length < n → child s content = child' s content)

include agree

theorem readChild_congr (message : String) (tag : Tag) (index : Option Nat) (s : Shape)
    {x : WireField} (hx : ∀ content, x.value = .bytes content → content.length < n) :
    readChild child message tag index s x = readChild child' message tag index s x := by
  simp only [readChild]
  cases h : x.content message with
  | error e => rfl
  | ok content =>
    have hlt := hx content (WireField.content_eq_ok_iff.mp h)
    simp [bind, Except.bind, agree s content hlt]

theorem Slot.readItem_congr (message : String) {x : Occurrence}
    (hx : ∀ content, x.value = .bytes content → content.length < n) (s : Slot) :
    s.readItem child message x = s.readItem child' message x := by
  cases s with
  | leaf tag l => rfl
  | child tag s required => exact readChild_congr agree message tag none s hx
  | children tag s => exact readChild_congr agree message tag (some x.index) s hx
  | decayParam kind content => rfl

theorem readEntry_congr (message : String) {x : Occurrence}
    (hx : ∀ content, x.value = .bytes content → content.length < n) (ss : List Slot) :
    readEntry child message x ss = readEntry child' message x ss := by
  induction ss with
  | nil => rfl
  | cons s ss ih => simp only [readEntry, Slot.readItem_congr agree message hx s, ih]

theorem Slot.settle_congr (m : MessageType) (s : Slot) {items : List s.Item}
    (h : ∀ x ∈ items, Slot.Item.Below n x) : s.settle child m items = s.settle child' m items := by
  cases s with
  | leaf tag l => rfl
  | child tag s required => rfl
  | children tag s => rfl
  | decayParam kind content =>
    simp only [settle]
    split
    · rfl
    · split
      · rfl
      · rename_i bs hlast
        have hmem := List.mem_of_getLast? hlast
        simp only [List.mem_filterMap, Sum.getRight?_eq_some_iff] at hmem
        obtain ⟨_, hmem, rfl⟩ := hmem
        rw [agree _ bs (h _ hmem)]

theorem settleAll_congr (m : MessageType) (ss : List Slot) {entries : List (Entry ss)}
    (h : ∀ e ∈ entries, e.Below n) :
    settleAll child m ss entries = settleAll child' m ss entries := by
  induction ss with
  | nil => rfl
  | cons s ss ih =>
    have hhere : ∀ x ∈ entries.filterMap Entry.here?, Slot.Item.Below n x := by
      intro x hx
      obtain ⟨e, he, hxe⟩ := List.mem_filterMap.mp hx
      cases e with
      | here y => simp only [Entry.here?, Option.some.injEq] at hxe; subst hxe; exact h _ he
      | there e => simp [Entry.here?] at hxe
    have hthere : ∀ e ∈ entries.filterMap Entry.there?, e.Below n := by
      intro e he
      obtain ⟨e', he', hee⟩ := List.mem_filterMap.mp he
      cases e' with
      | here y => simp [Entry.there?] at hee
      | there e'' => simp only [Entry.there?, Option.some.injEq] at hee; subst hee; exact h _ he'
    simp only [settleAll, Slot.settle_congr agree m s hhere, ih hthere]

omit agree in
theorem readEntry_below {message : String} {x : Occurrence}
    (hx : ∀ content, x.value = .bytes content → content.length < n) {ss : List Slot}
    {e : Entry ss} (h : readEntry child message x ss = .ok e) : e.Below n := by
  induction ss with
  | nil => simp [readEntry] at h
  | cons s ss ih =>
    simp only [readEntry] at h
    split at h
    · cases hi : s.readItem child message x with
      | error e => simp [hi, bind, Except.bind] at h
      | ok item =>
        simp only [hi, bind, Except.bind, pure, Except.pure, Except.ok.injEq] at h
        subst h
        cases s with
        | decayParam kind content =>
          simp only [Slot.readItem] at hi
          split at hi
          · cases hk : Scalar.read message x.toWireField (.enum .decayParamKind) <;>
              simp [hk, bind, Except.bind, pure, Except.pure] at hi
            subst hi; trivial
          · cases hc : x.content message <;>
              simp [hc, bind, Except.bind, pure, Except.pure] at hi
            subst hi
            exact hx _ (WireField.content_eq_ok_iff.mp hc)
        | leaf tag l => trivial
        | child tag s required => trivial
        | children tag s => trivial
    · cases he : readEntry child message x ss with
      | error e => simp [he, bind, Except.bind] at h
      | ok e' =>
        simp only [he, bind, Except.bind, pure, Except.pure, Except.ok.injEq] at h
        subst h
        exact ih he

theorem readMessage_congr (m : MessageType) (bs : Bytes) (hn : bs.length ≤ n) :
    readMessage child m bs = readMessage child' m bs := by
  have hshort : ∀ x ∈ (Reader.start m.name bs).fields.1, ∀ content,
      x.value = .bytes content → content.length < n := fun x hx content hc =>
    Nat.lt_of_lt_of_le (Reader.fields_content_length hx hc) hn
  have hcollect := Reader.collect_congr fun x hx =>
    readEntry_congr agree m.name (hshort x hx) m.slots
  simp only [readMessage, ← hcollect]
  cases h : (Reader.start m.name bs).collect fun x => readEntry child m.name x m.slots with
  | error e => rfl
  | ok entries =>
    have hbelow : ∀ e ∈ entries, e.Below n := by
      intro e he
      obtain ⟨x, hx, hread⟩ := Reader.exists_of_mem_collect h he
      exact readEntry_below (hshort x hx) hread
    simp only [bind, Except.bind, settleAll_congr agree m m.slots hbelow]

theorem readCriterion_congr {x : Occurrence}
    (hx : ∀ content, x.value = .bytes content → content.length < n) :
    readCriterion child x = readCriterion child' x := by
  simp only [readCriterion]
  split
  · rfl
  · rw [readChild_congr agree _ _ _ _ hx]

/-- One level of reading asks only for children that have fewer bytes. -/
theorem readShape_congr (s : Shape) (bs : Bytes) (hn : bs.length ≤ n) :
    readShape child s bs = readShape child' s bs := by
  cases s with
  | message m => exact readMessage_congr agree m bs hn
  | node f =>
    simp only [readShape]
    cases h : Envelope.read f bs with
    | error e => rfl
    | ok e =>
      have hlt := Nat.lt_of_lt_of_le (Envelope.payload_length h) hn
      simp [bind, Except.bind, agree _ _ hlt]
  | criterion =>
    have hcollect := Reader.collect_congr (r := Reader.start Shape.criterion.name bs) fun x hx =>
      readCriterion_congr agree fun content hc =>
        Nat.lt_of_lt_of_le (Reader.fields_content_length hx hc) hn
    simp only [readShape, hcollect]

end

/-- Decoding is one level of reading with decoding for the children. -/
theorem decode_eq (s : Shape) (bs : Bytes) : decode s bs = readShape decode s bs := by
  rw [decode]
  refine readShape_congr (fun s' content hlt => ?_) s bs (Nat.le_refl _)
  rw [dif_pos hlt]

/-- A node is read from its envelope, and then from the payload in it. -/
theorem decode_node_eq (f : Family) (bs : Bytes) :
    decode (.node f) bs = Envelope.read f bs >>= fun e => decodePayload f e.kind e.payload := by
  rw [decode_eq]
  rfl

end SearchWire
