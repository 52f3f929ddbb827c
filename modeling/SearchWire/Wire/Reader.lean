import SearchWire.Error

/-!
# Reading fields

A reader takes a message apart, field by field. It stops at the end of the bytes, or at the first
bytes that are no field. Each field comes with its index, the number of earlier fields of the
message that have the same field number.

`collect_eq_ok_iff` says when all the fields of a message are converted, and `fields_content_length`
that what a field holds as bytes is shorter than the message.
-/

namespace SearchWire

/-- A field of a message, with the number of earlier fields that have its number. -/
structure Occurrence extends WireField where
  index : Nat
deriving DecidableEq, Repr

/-- A message that is being read: its name, the bytes still to be read, and the numbers of the
fields read so far. -/
structure Reader where
  message : String
  rest : Bytes
  seen : List Nat
deriving DecidableEq, Repr

namespace Reader

/-- The reader at the start of a message. -/
def start (message : String) (bs : Bytes) : Reader := ⟨message, bs, []⟩

/-- The next field with the reader behind it, or nothing at the end of the bytes. -/
def next? (r : Reader) : Result (Option (Occurrence × Reader)) :=
  if r.rest.isEmpty then .ok none
  else
    match WireField.read r.rest with
    | .error e => .error (.malformed r.message (.framing e))
    | .ok (f, rest) =>
      .ok (some (⟨f, r.seen.count f.number⟩, ⟨r.message, rest, f.number :: r.seen⟩))

/-- A reader that has read a field has fewer bytes left. -/
theorem next?_length {r r' : Reader} {f : Occurrence} (h : r.next? = .ok (some (f, r'))) :
    r'.rest.length < r.rest.length := by
  simp only [next?] at h
  split at h
  · simp at h
  · split at h <;> simp only [reduceCtorEq, Except.ok.injEq, Option.some.injEq, Prod.mk.injEq] at h
    rename_i hr
    obtain ⟨_, rfl⟩ := h
    exact WireField.read_length hr

/-- All fields up to the end of the bytes or up to the first bytes that are no field, and in the
latter case the error. -/
def fields (r : Reader) : List Occurrence × Option Error :=
  match _h : r.next? with
  | .error e => ([], some e)
  | .ok none => ([], none)
  | .ok (some (f, r')) =>
    let (fs, broken) := r'.fields
    (f :: fs, broken)
termination_by r.rest.length
decreasing_by exact next?_length _h

/-- Convert the fields one after the other. The first failure counts, be it of a conversion or that
of bytes which are no field. -/
def collect {α : Type} (r : Reader) (convert : Occurrence → Result α) : Result (List α) := do
  let (fs, broken) := r.fields
  let xs ← fs.mapM convert
  match broken with
  | none => return xs
  | some e => throw e

/-! ### What fields hold -/

theorem next?_content_length {r r' : Reader} {x : Occurrence} {content : Bytes}
    (h : r.next? = .ok (some (x, r'))) (hx : x.value = .bytes content) :
    content.length < r.rest.length := by
  simp only [next?] at h
  split at h
  · simp at h
  · split at h <;> simp only [reduceCtorEq, Except.ok.injEq, Option.some.injEq, Prod.mk.injEq] at h
    rename_i hr
    obtain ⟨rfl, _⟩ := h
    exact WireField.read_content_length hr hx

/-- What a field holds as bytes is shorter than the bytes of all the fields. -/
theorem fields_content_length {r : Reader} {x : Occurrence} {content : Bytes}
    (h : x ∈ r.fields.1) (hx : x.value = .bytes content) : content.length < r.rest.length := by
  fun_induction fields r with
  | case1 => simp at h
  | case2 => simp at h
  | case3 r f r' hnext fs broken hfs ih =>
    rcases List.mem_cons.mp h with rfl | hmem
    · exact next?_content_length hnext hx
    · exact Nat.lt_trans (ih (by rw [hfs]; exact hmem)) (next?_length hnext)

/-- Conversions that agree on the fields of a message collect the same. -/
theorem collect_congr {α : Type} {r : Reader} {f g : Occurrence → Result α}
    (h : ∀ x ∈ r.fields.1, f x = g x) : r.collect f = r.collect g := by
  have hmap : r.fields.1.mapM f = r.fields.1.mapM g := by
    generalize r.fields.1 = xs at h
    induction xs with
    | nil => rfl
    | cons x xs ih =>
      rw [List.mapM_cons, List.mapM_cons, h x (by simp), ih fun y hy => h y (by simp [hy])]
  simp [collect, hmap]

/-- Fields are collected exactly when they reach the end of the bytes and all convert. -/
theorem collect_eq_ok_iff {α : Type} {r : Reader} {convert : Occurrence → Result α} {ys : List α} :
    r.collect convert = .ok ys ↔ r.fields.2 = none ∧ r.fields.1.mapM convert = .ok ys := by
  simp only [collect]
  rcases r.fields with ⟨fs, broken⟩
  cases hmap : fs.mapM convert <;> cases broken <;>
    simp [bind, Except.bind, pure, Except.pure, throw, throwThe, MonadExceptOf.throw]

private theorem exists_of_mem_mapM {α β : Type} {f : α → Result β} {xs : List α} {ys : List β}
    (h : xs.mapM f = .ok ys) {y : β} (hy : y ∈ ys) : ∃ x ∈ xs, f x = .ok y := by
  induction xs generalizing ys with
  | nil =>
    simp only [List.mapM_nil, pure, Except.pure, Except.ok.injEq] at h
    simp [← h] at hy
  | cons x xs ih =>
    rw [List.mapM_cons] at h
    cases hx : f x with
    | error e => simp [hx, bind, Except.bind] at h
    | ok z =>
      cases hrest : xs.mapM f with
      | error e => simp [hx, hrest, bind, Except.bind] at h
      | ok zs =>
        simp only [hx, hrest, bind, Except.bind, pure, Except.pure, Except.ok.injEq] at h
        subst h
        rcases List.mem_cons.mp hy with rfl | hmem
        · exact ⟨x, by simp, hx⟩
        · obtain ⟨x', hx', hy'⟩ := ih hrest hmem
          exact ⟨x', by simp [hx'], hy'⟩

/-- Whatever is collected comes from a field. -/
theorem exists_of_mem_collect {α : Type} {r : Reader} {convert : Occurrence → Result α}
    {ys : List α} (h : r.collect convert = .ok ys) {y : α} (hy : y ∈ ys) :
    ∃ x ∈ r.fields.1, convert x = .ok y :=
  exists_of_mem_mapM (collect_eq_ok_iff.mp h).2 hy

/-- Nothing is collected from no bytes. -/
theorem collect_start_nil {α : Type} (message : String) (convert : Occurrence → Result α) :
    (start message []).collect convert = .ok [] := by
  have hfields : (start message []).fields = ([], none) := by
    rw [fields]
    simp [start, next?]
  exact collect_eq_ok_iff.mpr ⟨by rw [hfields], by rw [hfields]; rfl⟩

end Reader

end SearchWire
