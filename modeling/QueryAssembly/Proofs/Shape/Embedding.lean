import QueryAssembly.Proofs.Json.Paths
import QueryAssembly.Proofs.Shape.Frames
import QueryAssembly.Proofs.Shape.RoundTrip

/-!
# What is read in a place is written in that place

A frame that is accepted with one script in its hole puts whatever is read there into the same place
of the value that it makes (`Frame.exists_puts`): it accepts a script exactly when the hole does,
and the value is written with what was read at the path of the hole, whatever form the records
around it have in the script.
-/

namespace QueryAssembly

open Json (Script ListEnd ObjectEnd)

open Reading

/-! ### Items -/

namespace Reading

theorem readItems_append_cons_iff {α : Type} {read : Script → Except ReadError α}
    {front back : List Script} {item : Script} {stop : ListEnd} {values : List α} :
    readItems read (front ++ item :: back) stop = .ok values ↔
      ∃ before after, readItems read front .closed = .ok before ∧
        readItems read back stop = .ok after ∧
          ∃ value, read item = .ok value ∧ before ++ value :: after = values := by
  induction front generalizing values with
  | nil =>
    rw [List.nil_append, readItems_cons_iff]
    constructor
    · rintro ⟨value, here, after, later, rfl⟩
      exact ⟨[], after, rfl, later, value, here, rfl⟩
    · rintro ⟨before, after, none, later, value, here, rfl⟩
      cases none
      exact ⟨value, here, after, later, rfl⟩
  | cons first rest ih =>
    rw [List.cons_append, readItems_cons_iff]
    simp only [ih, readItems_cons_iff]
    constructor
    · rintro ⟨kept, read, _, ⟨before, after, earlier, later, value, here, rfl⟩, rfl⟩
      exact ⟨kept :: before, after, ⟨kept, read, before, earlier, rfl⟩, later, value, here, rfl⟩
    · rintro ⟨_, after, ⟨kept, read, before, earlier, rfl⟩, later, value, here, rfl⟩
      exact ⟨kept, read, _, ⟨before, after, earlier, later, value, here, rfl⟩, rfl⟩

theorem length_of_readItems {α : Type} {read : Script → Except ReadError α} {items : List Script}
    {stop : ListEnd} {values : List α} (done : readItems read items stop = .ok values) :
    values.length = items.length := by
  induction items generalizing values with
  | nil =>
    obtain ⟨-, rfl⟩ := readItems_nil_iff.mp done
    rfl
  | cons item rest ih =>
    obtain ⟨value, -, others, later, rfl⟩ := readItems_cons_iff.mp done
    rw [List.length_cons, List.length_cons, ih later]

end Reading

/-! ### Fields -/

namespace Fields

variable {types : List Type} {fields : Fields types} {name : String} {place : Nat} {α : Type}
  {presence : Presence α} {shape : Shape α} {origin : Origin}

/-- Whatever is read for a field is put into the values of all fields, and the rest of them does not
depend on it. -/
structure Puts (fields : Fields types) (name : String) (shape : Shape α) (origin : Origin)
    (read : Script → Values types → Prop) (put : α → Values types) : Prop where
  read : ∀ script values, read script values ↔
    ∃ held, shape.read origin script = .ok held ∧ put held = values
  write : ∀ held, (name, shape.write held) ∈ fields.write (put held)

theorem Has.namesDiffer (has : fields.Has name place presence shape)
    (differ : fields.NamesDiffer) : shape.NamesDiffer := by
  induction has with
  | here => exact differ.1
  | there first skipped different has ih => exact ih differ.2

theorem Has.exists_puts_place (has : fields.Has name place presence shape) {record : String}
    {size done : Nat} {front back : List Script} (here : front.length = place) {stop : ListEnd}
    {script : Script} {values : Values types}
    (accepted : fields.readPositional origin record size done (front ++ script :: back) stop =
      .ok values) :
    ∃ put, fields.Puts name shape origin (fun script values =>
      fields.readPositional origin record size done (front ++ script :: back) stop = .ok values)
        put := by
  induction has generalizing front done with
  | here name presence shape rest =>
    cases List.eq_nil_of_length_eq_zero here
    obtain ⟨value, others⟩ := values
    obtain ⟨-, further⟩ := pair_ok_iff.mp accepted
    refine ⟨fun held => (held, others), ?_, fun held => List.mem_cons_self⟩
    rintro script ⟨held, values⟩
    refine pair_ok_iff.trans ⟨?_, ?_⟩
    · rintro ⟨read, later⟩
      cases further.symm.trans later
      exact ⟨held, read, rfl⟩
    · rintro ⟨_, read, same⟩
      cases same
      exact ⟨read, further⟩
  | there first skipped different has ih =>
    obtain ⟨item, further, rfl⟩ := List.exists_cons_of_length_eq_add_one here
    obtain ⟨value, others⟩ := values
    obtain ⟨kept, rest⟩ := pair_ok_iff.mp accepted
    obtain ⟨put, puts⟩ := ih (Nat.succ.inj here) rest
    refine ⟨fun held => (value, put held), ?_, fun held => List.mem_cons_of_mem _ (puts.write held)⟩
    rintro script ⟨first_value, values⟩
    refine pair_ok_iff.trans ⟨?_, ?_⟩
    · rintro ⟨first_read, later⟩
      cases kept.symm.trans first_read
      obtain ⟨held, read, rfl⟩ := (puts.read script values).mp later
      exact ⟨held, read, rfl⟩
    · rintro ⟨held, read, same⟩
      cases same
      exact ⟨kept, (puts.read script _).mpr ⟨held, read, rfl⟩⟩

theorem Has.exists_puts_member (has : fields.Has name place presence shape)
    {before after : Slots types} {script : Script} {values : Values types}
    (accepted : fields.readMember origin name script before = .ok after)
    (completed : fields.complete after = .ok values) :
    ∃ put, fields.Puts name shape origin (fun script values =>
      ∃ after, fields.readMember origin name script before = .ok after ∧
        fields.complete after = .ok values) put := by
  induction has with
  | here name presence shape rest =>
    obtain ⟨slot, slots⟩ := before
    obtain ⟨value, others⟩ := values
    cases slot with
    | some known =>
      rw [readMember_known] at accepted
      cases accepted
    | none =>
      obtain ⟨first, -, rfl⟩ := readMember_unknown_iff.mp accepted
      obtain ⟨-, further⟩ := complete_cons_iff.mp completed
      refine ⟨fun held => (held, others), ?_, fun held => List.mem_cons_self⟩
      rintro script ⟨held, values⟩
      constructor
      · rintro ⟨_, taken, whole⟩
        obtain ⟨known, read, rfl⟩ := readMember_unknown_iff.mp taken
        obtain ⟨given | ⟨missing, -⟩, later⟩ := complete_cons_iff.mp whole
        · cases given
          cases further.symm.trans later
          exact ⟨held, read, rfl⟩
        · cases missing
      · rintro ⟨_, read, same⟩
        cases same
        exact ⟨_, readMember_unknown_iff.mpr ⟨held, read, rfl⟩,
          complete_cons_iff.mpr ⟨.inl rfl, further⟩⟩
  | there first skipped different has ih =>
    obtain ⟨slot, slots⟩ := before
    obtain ⟨value, others⟩ := values
    obtain ⟨middle, read, rfl⟩ := (readMember_other_iff different).mp accepted
    obtain ⟨kept, rest⟩ := complete_cons_iff.mp completed
    obtain ⟨put, puts⟩ := ih read rest
    refine ⟨fun held => (value, put held), ?_, fun held => List.mem_cons_of_mem _ (puts.write held)⟩
    rintro script ⟨first_value, values⟩
    constructor
    · rintro ⟨_, taken, whole⟩
      obtain ⟨further, later, rfl⟩ := (readMember_other_iff different).mp taken
      obtain ⟨also, others_whole⟩ := complete_cons_iff.mp whole
      obtain ⟨held, read, rfl⟩ := (puts.read script values).mp ⟨further, later, others_whole⟩
      have same : value = first_value := by
        rcases kept with rfl | ⟨rfl, absent⟩
        · simpa using also
        · simpa [absent] using also
      exact ⟨held, read, congrArg (·, put held) same⟩
    · rintro ⟨held, read, same⟩
      cases same
      obtain ⟨further, later, whole⟩ := (puts.read script _).mpr ⟨held, read, rfl⟩
      exact ⟨_, (readMember_other_iff different).mpr ⟨further, later, rfl⟩,
        complete_cons_iff.mpr ⟨kept, whole⟩⟩

end Fields

namespace Frame

variable {α β : Type} {part : Shape α} {whole : Shape β}

/-- The path to what fills the hole, in the written form of the value. -/
def path : {β : Type} → {whole : Shape β} → Frame part whole → List Json.Step
  | _, _, .here => []
  | _, _, .nullable inside => inside.path
  | _, _, .item front _ _ inside => .item front.length :: inside.path
  | _, _, @Frame.place _ _ _ _ _ _ name _ _ _ _ _ _ _ _ inside => .key name :: inside.path
  | _, _, .member name _ _ _ _ inside => .key name :: inside.path

/-- Whatever is read in the hole is put into the value, and written at the path of the hole. -/
structure Puts (frame : Frame part whole) (origin inside : Origin) (put : α → β) : Prop where
  read : ∀ script ≠ .null, ∀ value, whole.read origin (frame.fill script) = .ok value ↔
    ∃ held, part.read inside script = .ok held ∧ put held = value
  write : ∀ held, (whole.write (put held)).at? frame.path = some (part.write held)

end Frame

/-! ### Records -/

namespace Fields

variable {α β : Type} {part : Shape α}

section

variable {types : List Type} {γ : Type} {fields : Fields types} {packing : Packing types β}
  {name : String} {shape : Shape γ} {inside : Frame part shape} {levels within : Origin}
  {read : Script → Values types → Prop} {put : γ → Values types} {fill : α → γ}

/-- What is read inside a field is put into the record. -/
theorem Puts.read_record (puts : fields.Puts name shape levels read put)
    (inner : inside.Puts levels within fill) {script : Script} (present : script ≠ .null)
    {value : β} :
    (∃ values, read (inside.fill script) values ∧ packing.pack values = value) ↔
      ∃ held, part.read within script = .ok held ∧ packing.pack (put (fill held)) = value := by
  simp only [puts.read, inner.read script present]
  constructor
  · rintro ⟨_, ⟨_, ⟨held, read, rfl⟩, rfl⟩, rfl⟩
    exact ⟨held, read, rfl⟩
  · rintro ⟨held, read, rfl⟩
    exact ⟨_, ⟨_, ⟨held, read, rfl⟩, rfl⟩, rfl⟩

/-- What is put into a field of a record is written under its name. -/
theorem Puts.write_record (puts : fields.Puts name shape levels read put)
    (inner : inside.Puts levels within fill) (differ : fields.names.Nodup) (record : String)
    (held : α) :
    ((Shape.record record fields packing).write (packing.pack (put (fill held)))).at?
      (.key name :: inside.path) = some (part.write held) := by
  have only := Fields.holds_write differ (put (fill held)) _ _ (puts.write (fill held))
  have written : Members.last? name (fields.write (put (fill held))) =
      some (shape.write (fill held)) := by
    rw [Members.last?, only]
    rfl
  rw [Shape.write, packing.unpack_pack, Json.at?_key, Json.get?_object, written, Option.bind_some,
    inner.write]

end

/-- Members are read as if the one of a given place came last. -/
theorem readMembers_middle_iff {types : List Type} {fields : Fields types} {origin : Origin}
    {name : String} {front back : List (Except Json.Fault String × Script)} {script : Script}
    {stop : ObjectEnd} {before after : Slots types} :
    readMembers (fields.readMember origin) (front ++ (.ok name, script) :: back) stop before =
        .ok after ↔
      ∃ between, readMembers (fields.readMember origin) (front ++ back) .closed before =
          .ok between ∧
        stop = .closed ∧ fields.readMember origin name script between = .ok after := by
  have last : (front ++ (.ok name, script) :: back).Perm
      ((front ++ back) ++ [(.ok name, script)]) :=
    List.perm_middle.trans (List.perm_append_singleton _ _).symm
  rw [readMembers_perm_iff last, readMembers_append_iff]
  refine exists_congr fun between => and_congr_right fun _ => ?_
  rw [readMembers_cons_iff]
  simp only [Except.ok.injEq, exists_eq_left', readMembers_nil_iff]
  constructor
  · rintro ⟨_, read, closed, rfl⟩
    exact ⟨closed, read⟩
  · rintro ⟨closed, read⟩
    exact ⟨_, read, closed, rfl⟩

end Fields

namespace Frame

variable {α β : Type} {part : Shape α} {whole : Shape β}

theorem exists_puts (frame : Frame part whole) (differ : whole.NamesDiffer) {origin : Origin}
    {script : Script} (present : script ≠ .null) {value : β}
    (accepted : whole.read origin (frame.fill script) = .ok value) :
    ∃ inside put, frame.Puts origin inside put := by
  induction frame generalizing origin with
  | here => exact ⟨origin, id, fun script _ value => by simp [fill], fun held => rfl⟩
  | nullable inside ih =>
    rcases Shape.read_nullable_ok_iff.mp accepted with ⟨null, -⟩ | ⟨-, held, read, -⟩
    · exact absurd null (inside.fill_ne_null present)
    obtain ⟨within, put, puts⟩ := ih differ read
    refine ⟨within, fun held => some (put held), fun script given value => ?_, puts.write⟩
    have given_inside : inside.fill script ≠ .null := inside.fill_ne_null given
    rw [fill, Shape.read_nullable_ok_iff]
    simp only [puts.read script given, given_inside, false_and, false_or, true_and, ne_eq,
      not_false_eq_true]
    constructor
    · rintro ⟨_, ⟨held, read, rfl⟩, rfl⟩
      exact ⟨held, read, rfl⟩
    · rintro ⟨held, read, rfl⟩
      exact ⟨_, ⟨held, read, rfl⟩, rfl⟩
  | @item β item front back stop inside ih =>
    obtain ⟨levels, entered, read⟩ := bind_ok_iff.mp accepted
    obtain ⟨before, after, earlier, later, value, here, -⟩ := readItems_append_cons_iff.mp read
    obtain ⟨within, put, puts⟩ := ih differ here
    refine ⟨within, fun held => before ++ put held :: after, fun script given value => ?_, ?_⟩
    · simp only [fill, Shape.read, entered, bind_ok_iff, Except.ok.injEq, exists_eq_left',
        readItems_append_cons_iff, earlier, later, puts.read script given]
      constructor
      · rintro ⟨_, _, rfl, rfl, _, ⟨held, read, rfl⟩, rfl⟩
        exact ⟨held, read, rfl⟩
      · rintro ⟨held, read, rfl⟩
        exact ⟨_, _, rfl, rfl, _, ⟨held, read, rfl⟩, rfl⟩
    · intro held
      have place : before.length = front.length := length_of_readItems earlier
      rw [path, ← place, Shape.write, Json.at?_item]
      simp [puts.write]
  | place front back stop has inside ih =>
    obtain ⟨levels, entered, read⟩ := bind_ok_iff.mp accepted
    obtain ⟨values, read, -⟩ := bind_ok_iff.mp read
    obtain ⟨here, shape_read⟩ := has.exists_read_of_readPositional rfl read
    obtain ⟨put, puts⟩ := has.exists_puts_place rfl read
    obtain ⟨within, fill_inside, inner⟩ := ih (has.namesDiffer differ.2) shape_read
    refine ⟨within, _, fun script given value => ?_, puts.write_record inner differ.1 _⟩
    rw [← puts.read_record inner given, fill, Shape.read, entered]
    simp [bind_ok_iff, pure, Except.pure]
  | member name front back stop has inside ih =>
    obtain ⟨levels, entered, read⟩ := bind_ok_iff.mp accepted
    obtain ⟨slots, read, rest⟩ := bind_ok_iff.mp read
    obtain ⟨values, completed, -⟩ := bind_ok_iff.mp rest
    obtain ⟨between, known, rfl, taken⟩ := Fields.readMembers_middle_iff.mp read
    obtain ⟨here, shape_read⟩ := has.exists_read_of_readMember taken
    obtain ⟨put, puts⟩ := has.exists_puts_member taken completed
    obtain ⟨within, fill_inside, inner⟩ := ih (has.namesDiffer differ.2) shape_read
    refine ⟨within, _, fun script given value => ?_, puts.write_record inner differ.1 _⟩
    rw [← puts.read_record inner given, fill, Shape.read, entered]
    simp only [bind_ok_iff, Fields.readMembers_middle_iff, known, Except.ok.injEq, exists_eq_left',
      true_and, pure, Except.pure]
    constructor
    · rintro ⟨after, taken, values, completed, packed⟩
      exact ⟨values, ⟨after, taken, completed⟩, packed⟩
    · rintro ⟨values, ⟨after, taken, completed⟩, packed⟩
      exact ⟨after, taken, values, completed, packed⟩

/-! ### Accepted scripts -/

/-- A text is accepted that is written from the frame with a script in its hole. -/
def Accepts (frame : Frame part whole) (script : Script) : Prop :=
  ∃ value, whole.read (.text Origin.textLevels) (frame.fill script) = .ok value

/-- A script is accepted in the place of another one if it is read wherever that one is. -/
theorem Accepts.of_readable {frame : Frame part whole} (differ : whole.NamesDiffer)
    {other script : Script} (accepted : frame.Accepts other) (given : other ≠ .null)
    (present : script ≠ .null) (readable : ∀ inside held, part.read inside other = .ok held →
      ∃ held, part.read inside script = .ok held) :
    frame.Accepts script := by
  obtain ⟨value, accepted⟩ := accepted
  obtain ⟨inside, put, puts⟩ := frame.exists_puts differ given accepted
  obtain ⟨_, here, -⟩ := (puts.read other given value).mp accepted
  obtain ⟨held, read⟩ := readable inside _ here
  exact ⟨put held, (puts.read script present _).mpr ⟨held, read, rfl⟩⟩

/-- A script that is read wherever it stands, or nowhere, is accepted if it is read and the rest of
the frame is in order. -/
theorem accepts_iff (frame : Frame part whole) (differ : whole.NamesDiffer) {script : Script}
    (present : script ≠ .null) {Readable : Prop}
    (readable : ∀ inside, (∃ held, part.read inside script = .ok held) ↔ Readable) :
    frame.Accepts script ↔ Readable ∧ ∃ other ≠ .null, frame.Accepts other := by
  constructor
  · intro accepted
    obtain ⟨value, read⟩ := accepted
    obtain ⟨inside, held, here⟩ := frame.exists_read_of_fill present read
    exact ⟨(readable inside).mp ⟨held, here⟩, script, present, value, read⟩
  · rintro ⟨reads, other, given, accepted⟩
    exact accepted.of_readable differ given present fun inside _ _ => (readable inside).mpr reads

/-- What is read in the hole is written at its path. -/
theorem exists_at?_write (frame : Frame part whole) (differ : whole.NamesDiffer) {script : Script}
    (present : script ≠ .null) {origin : Origin} {value : β}
    (accepted : whole.read origin (frame.fill script) = .ok value) :
    ∃ inside held, part.read inside script = .ok held ∧
      (whole.write value).at? frame.path = some (part.write held) := by
  obtain ⟨inside, put, puts⟩ := frame.exists_puts differ present accepted
  obtain ⟨held, read, rfl⟩ := (puts.read script present value).mp accepted
  exact ⟨inside, held, read, puts.write held⟩

end Frame

end QueryAssembly
