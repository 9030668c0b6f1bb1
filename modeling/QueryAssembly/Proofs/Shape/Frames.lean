import QueryAssembly.Proofs.Shape.Alike

/-!
# Places in a script

A frame is a script with a hole at one place where values of a shape are read, at any depth of
lists, optional values and records in either form.  What fills the hole is all that the rest of the
script knows of it: scripts that are read alike fill it alike (`Frame.read_fill_congr`), and nothing
is accepted around a hole that holds something unacceptable (`Frame.exists_read_of_fill`).
-/

namespace QueryAssembly

open Json (Script ListEnd ObjectEnd)

/-- A script of a shape with a hole in which a part is read. -/
inductive Frame {α : Type} (part : Shape α) : {β : Type} → Shape β → Type 1 where
  /-- The hole alone. -/
  | here : Frame part part
  /-- Inside a value that may be null. -/
  | nullable {β : Type} {inner : Shape β} (inside : Frame part inner) : Frame part (.nullable inner)
  /-- Inside an item of a list. -/
  | item {β : Type} {item : Shape β} (front back : List Script) (stop : ListEnd)
    (inside : Frame part item) : Frame part (.list item)
  /-- Inside a field of a record that is written as a list. -/
  | place {β γ : Type} {types : List Type} {record name : String} {fields : Fields types}
    {packing : Packing types β} {presence : Presence γ} {shape : Shape γ}
    (front back : List Script) (stop : ListEnd) (has : fields.Has name front.length presence shape)
    (inside : Frame part shape) : Frame part (.record record fields packing)
  /-- Inside a field of a record that is written as an object. -/
  | member {β γ : Type} {types : List Type} {record : String} {fields : Fields types}
    {packing : Packing types β} {place : Nat} {presence : Presence γ} {shape : Shape γ}
    (name : String) (front back : List (Except Json.Fault String × Script)) (stop : ObjectEnd)
    (has : fields.Has name place presence shape) (inside : Frame part shape) :
    Frame part (.record record fields packing)

open Reading

namespace Reading

/-- Every item of an accepted list is accepted. -/
theorem exists_read_of_readItems {α : Type} {read : Script → Except ReadError α} {item : Script}
    {front back : List Script} {stop : ListEnd} {values : List α}
    (whole : readItems read (front ++ item :: back) stop = .ok values) :
    ∃ value, read item = .ok value := by
  induction front generalizing values with
  | nil =>
    obtain ⟨value, here, -⟩ := readItems_cons_iff.mp whole
    exact ⟨value, here⟩
  | cons first rest ih =>
    obtain ⟨-, -, others, later, -⟩ := readItems_cons_iff.mp whole
    exact ih later

end Reading

namespace Fields

variable {types : List Type} {fields : Fields types} {name : String} {place : Nat} {α : Type}
  {presence : Presence α} {shape : Shape α} {origin : Origin} {script : Script}

/-- What fills a field is accepted. -/
theorem Has.exists_read_of_readMember (has : fields.Has name place presence shape)
    {before after : Slots types}
    (read : fields.readMember origin name script before = .ok after) :
    ∃ value, shape.read origin script = .ok value := by
  induction has with
  | here name presence shape rest =>
    obtain ⟨slot, slots⟩ := before
    cases slot with
    | some known =>
      rw [readMember_known] at read
      cases read
    | none =>
      obtain ⟨value, here, -⟩ := readMember_unknown_iff.mp read
      exact ⟨value, here⟩
  | there first skipped different has ih =>
    obtain ⟨slot, slots⟩ := before
    obtain ⟨further, later, -⟩ := (readMember_other_iff different).mp read
    exact ih later

/-- What stands in the place of a field is accepted. -/
theorem Has.exists_read_of_readPositional (has : fields.Has name place presence shape)
    {record : String} {size done : Nat} {front back : List Script} (here : front.length = place)
    {stop : ListEnd} {values : Values types}
    (read : fields.readPositional origin record size done (front ++ script :: back) stop =
      .ok values) :
    ∃ value, shape.read origin script = .ok value := by
  induction has generalizing front done with
  | here name presence shape rest =>
    cases List.eq_nil_of_length_eq_zero here
    obtain ⟨value, others⟩ := values
    exact ⟨value, (pair_ok_iff.mp read).1⟩
  | there first skipped different has ih =>
    obtain ⟨item, further, rfl⟩ := List.exists_cons_of_length_eq_add_one here
    obtain ⟨value, others⟩ := values
    exact ih (Nat.succ.inj here) (pair_ok_iff.mp read).2

end Fields

namespace Frame

variable {α β : Type} {part : Shape α} {whole : Shape β}

/-- Put a script into the hole. -/
def fill (script : Script) : {β : Type} → {whole : Shape β} → Frame part whole → Script
  | _, _, .here => script
  | _, _, .nullable inside => inside.fill script
  | _, _, .item front back stop inside => .list (front ++ inside.fill script :: back) stop
  | _, _, .place front back stop _ inside => .list (front ++ inside.fill script :: back) stop
  | _, _, .member name front back stop _ inside =>
    .object (front ++ (.ok name, inside.fill script) :: back) stop

theorem fill_eq_null_iff {left right : Script} (null : left = .null ↔ right = .null)
    (frame : Frame part whole) : frame.fill left = .null ↔ frame.fill right = .null := by
  induction frame with
  | here => exact null
  | nullable inside ih => exact ih
  | item | place | member => simp [fill]

theorem fill_ne_null {script : Script} (present : script ≠ .null) (frame : Frame part whole) :
    frame.fill script ≠ .null := by
  induction frame with
  | here => exact present
  | nullable inside ih => exact ih
  | item | place | member => simp [fill]

/-- Scripts that are read alike, whatever surrounds them, fill a frame alike. -/
theorem read_fill_congr {left right : Script} (null : left = .null ↔ right = .null)
    (same : ∀ origin value, part.read origin left = .ok value ↔ part.read origin right = .ok value)
    (frame : Frame part whole) (origin : Origin) (value : β) :
    whole.read origin (frame.fill left) = .ok value ↔
      whole.read origin (frame.fill right) = .ok value := by
  induction frame generalizing origin with
  | here => exact same origin value
  | nullable inside ih =>
    simp only [fill, Shape.read_nullable_ok_iff, ne_eq, inside.fill_eq_null_iff null, ih origin]
  | item front back stop inside ih =>
    simp only [fill, Shape.read, bind_ok_iff, readItems_congr (ih _)]
  | place front back stop has inside ih =>
    simp only [fill, Shape.read, bind_ok_iff, has.readPositional_congr (ih _) rfl]
  | member name front back stop has inside ih =>
    simp only [fill, Shape.read, bind_ok_iff, readMembers_append_iff, readMembers_cons_iff,
      Except.ok.injEq, exists_eq_left', has.readMember_congr (ih _)]

/-- Nothing is accepted around a hole unless what fills it is. -/
theorem exists_read_of_fill {script : Script} (present : script ≠ .null)
    (frame : Frame part whole) {origin : Origin} {value : β}
    (read : whole.read origin (frame.fill script) = .ok value) :
    ∃ inside held, part.read inside script = .ok held := by
  induction frame generalizing origin with
  | here => exact ⟨origin, value, read⟩
  | nullable inside ih =>
    rcases Shape.read_nullable_ok_iff.mp read with ⟨null, -⟩ | ⟨-, held, read, -⟩
    · exact absurd null (inside.fill_ne_null present)
    · exact ih read
  | item front back stop inside ih =>
    obtain ⟨levels, -, read⟩ := bind_ok_iff.mp read
    obtain ⟨held, read⟩ := exists_read_of_readItems read
    exact ih read
  | place front back stop has inside ih =>
    obtain ⟨levels, -, read⟩ := bind_ok_iff.mp read
    obtain ⟨values, read, -⟩ := bind_ok_iff.mp read
    obtain ⟨held, read⟩ := has.exists_read_of_readPositional rfl read
    exact ih read
  | member name front back stop has inside ih =>
    obtain ⟨levels, -, read⟩ := bind_ok_iff.mp read
    obtain ⟨slots, read, -⟩ := bind_ok_iff.mp read
    obtain ⟨before, -, read⟩ := readMembers_append_iff.mp read
    obtain ⟨key, sound, between, read, -⟩ := readMembers_cons_iff.mp read
    cases sound
    obtain ⟨held, read⟩ := has.exists_read_of_readMember read
    exact ih read

end Frame

end QueryAssembly
