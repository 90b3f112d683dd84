import WeatherRadar.Proofs.Level3.Fields
/-!
# What parsers read

`Reads parser field value` says that a parser takes exactly a field from the bytes before it, and
that it finds the value there, whatever follows.  Parsers in a row read fields in a row
(`Reads.bind`), so that what is written field by field is read field by field.
-/

namespace WeatherRadar.Level3

/-! ## Steps that fail or go on -/

section Steps

variable {σ ε α β : Type} {s t : σ}

theorem bind_of_ok {p : StateT σ (Except ε) α} {f : α → StateT σ (Except ε) β} {a : α}
    (h : p s = .ok (a, t)) : (p >>= f) s = f a t := by
  simp only [bind, StateT.bind, h, Except.bind]

theorem bind_eq_ok {p : StateT σ (Except ε) α} {f : α → StateT σ (Except ε) β} {found : β × σ} :
    (p >>= f) s = .ok found ↔ ∃ a t, p s = .ok (a, t) ∧ f a t = .ok found := by
  cases h : p s with
  | error fault => simp [bind, StateT.bind, h, Except.bind]
  | ok step =>
      rw [bind_of_ok h]
      constructor
      · intro hf
        exact ⟨step.1, step.2, rfl, hf⟩
      · rintro ⟨a, t, hstep, hf⟩
        rwa [Except.ok.inj hstep]

theorem mapError_ok {ε' : Type} (f : ε → ε') (a : α) :
    (Except.ok a : Except ε α).mapError f = .ok a := rfl

theorem except_bind_eq_ok {e : Except ε α} {f : α → Except ε β} {b : β} :
    (e >>= f) = .ok b ↔ ∃ a, e = .ok a ∧ f a = .ok b := by
  cases e with
  | error fault => simp [bind, Except.bind]
  | ok a => simp [bind, Except.bind]

theorem except_map_eq_ok {e : Except ε α} {f : α → β} {b : β} :
    e.map f = .ok b ↔ ∃ a, e = .ok a ∧ f a = b := by
  cases e with
  | error fault => simp [Except.map]
  | ok a => simp [Except.map]

theorem except_map_eq_error {e : Except ε α} {f : α → β} {fault : ε} :
    e.map f = .error fault ↔ e = .error fault := by
  cases e with
  | error found => simp [Except.map]
  | ok a => simp [Except.map]

/-- A result that passes a test is no error. -/
theorem exists_ok_of_any {e : Except ε α} {p : α → Bool} (h : e.toOption.any p = true) :
    ∃ a, e = .ok a ∧ p a = true := by
  cases e with
  | error fault => cases h
  | ok a => exact ⟨a, rfl, h⟩

theorem lift_of_ok {e : Except ε α} {f : α → StateT σ (Except ε) β} {a : α} (h : e = .ok a) :
    ((liftM e : StateT σ (Except ε) α) >>= f) s = f a s := by
  rw [h]
  rfl

theorem lift_eq_ok {e : Except ε α} {f : α → StateT σ (Except ε) β} {found : β × σ} :
    ((liftM e : StateT σ (Except ε) α) >>= f) s = .ok found ↔
      ∃ a, e = .ok a ∧ f a s = .ok found := by
  cases e with
  | error fault => simp [bind, StateT.bind, liftM, monadLift, MonadLift.monadLift, StateT.lift,
      Except.bind]
  | ok a =>
      rw [lift_of_ok rfl]
      simp

theorem lift_run_of_ok {p : StateT σ (Except ε) α} {a : α} {u : σ} (h : p s = .ok (a, t)) :
    (liftM (p.run' s) : StateT σ (Except ε) α) u = .ok (a, u) := by
  rw [StateT.run', h]
  rfl

theorem lift_run_eq_ok {p : StateT σ (Except ε) α} {a : α} {u v : σ}
    (h : (liftM (p.run' s) : StateT σ (Except ε) α) u = .ok (a, v)) : ∃ t, p s = .ok (a, t) := by
  cases hp : p s with
  | error fault =>
      rw [StateT.run', hp] at h
      cases h
  | ok step =>
      rw [lift_run_of_ok (show p s = .ok (step.1, step.2) from hp)] at h
      obtain ⟨rfl, -⟩ := Prod.mk.inj (Except.ok.inj h)
      exact ⟨step.2, rfl⟩

theorem lift_bind_pure {e : Except ε α} {f : α → β} :
    ((liftM e : StateT σ (Except ε) α) >>= fun a => pure (f a)) s = e.map fun a => (f a, s) := by
  cases e with
  | error fault => rfl
  | ok a => rfl

theorem get_bind {f : σ → StateT σ (Except ε) β} :
    ((get : StateT σ (Except ε) σ) >>= f) s = f s s := rfl

end Steps

/-! ## Cursors -/

theorem hasAtLeast_iff {α : Type} (n : Nat) (members : List α) :
    Cursor.hasAtLeast n members = true ↔ n ≤ members.length := by
  induction n generalizing members with
  | zero => simp [Cursor.hasAtLeast]
  | succ n ih =>
      cases members with
      | nil => simp [Cursor.hasAtLeast]
      | cons member members =>
          rw [Cursor.hasAtLeast, ih, List.length_cons]
          omega

/-- A parser takes a field from the bytes before it and finds a value there. -/
def Reads {α : Type} (parser : Parser α) (field : List UInt8) (value : α) : Prop :=
  ∀ data position rest, parser ⟨data, position, field ++ rest⟩ =
    .ok (value, ⟨data, position + field.length, rest⟩)

namespace Reads

variable {α β : Type} {field more : List UInt8}

theorem bind {p : Parser α} {f : α → Parser β} {a : α} {b : β} (hp : Reads p field a)
    (hf : Reads (f a) more b) : Reads (p >>= f) (field ++ more) b := by
  intro data position rest
  rw [List.append_assoc, bind_of_ok (hp data position (more ++ rest)), hf, List.length_append,
    Nat.add_assoc]

theorem pure (a : α) : Reads (Pure.pure a : Parser α) [] a := by
  intro data position rest
  rfl

theorem bind_pure {p : Parser α} {a : α} {f : α → β} (hp : Reads p field a) :
    Reads (p >>= fun a => Pure.pure (f a)) field (f a) := by
  have hboth := hp.bind (f := fun a => Pure.pure (f a)) (Reads.pure (f a))
  rwa [List.append_nil] at hboth

/-- A step that reads nothing and does not fail. -/
theorem of_ok {e : Except Error α} {f : α → Parser β} {a : α} {b : β} (he : e = .ok a)
    (hf : Reads (f a) more b) : Reads (liftM e >>= f) more b := by
  intro data position rest
  rw [lift_of_ok he, hf]

theorem readBytes (field data : List UInt8) (position : Nat) (rest : List UInt8) :
    (⟨data, position, field ++ rest⟩ : Cursor).readBytes field.length =
      .ok (field, ⟨data, position + field.length, rest⟩) := by
  have hall : Cursor.hasAtLeast field.length (field ++ rest) = true := by
    rw [hasAtLeast_iff, List.length_append]
    omega
  rw [Cursor.readBytes, Cursor.skip, if_pos hall, Cursor.advance, List.drop_left]
  simp only [Except.map, List.take_left]

theorem bytes (place : Place) {n : Nat} (hn : field.length = n) :
    Reads (Parser.bytes place n) field field := by
  intro data position rest
  rw [← hn, Parser.bytes, Parser.of, readBytes]
  rfl

theorem uint16 (place : Place) (n : UInt16) :
    Reads (Parser.uint16 place) (uint16Bytes n) n := by
  intro data position rest
  have hread := readBytes (uint16Bytes n) data position rest
  rw [length_uint16Bytes] at hread
  rw [Parser.uint16, Parser.of, Cursor.readUInt16, hread]
  simp only [Except.map, mapError_ok, uint16_spelled]
  rfl

theorem int16 (place : Place) (n : Int16) : Reads (Parser.int16 place) (int16Bytes n) n := by
  intro data position rest
  have hread := readBytes (int16Bytes n) data position rest
  rw [length_int16Bytes] at hread
  rw [Parser.int16, Parser.of, Cursor.readInt16, hread]
  simp only [Except.map, mapError_ok, int16_spelled]
  rfl

theorem uint32 (place : Place) (n : UInt32) :
    Reads (Parser.uint32 place) (uint32Bytes n) n := by
  intro data position rest
  have hread := readBytes (uint32Bytes n) data position rest
  rw [length_uint32Bytes] at hread
  rw [Parser.uint32, Parser.of, Cursor.readUInt32, hread]
  simp only [Except.map, mapError_ok, uint32_spelled]
  rfl

end Reads

/-! ## Header and description -/

theorem MessageHeader.reads (h : MessageHeader) : Reads read h.toBytes h := by
  have hread := (Reads.bytes .messageHeader h.length_toBytes).bind_pure (f := ofBytes)
  rwa [h.ofBytes_toBytes] at hread

theorem Description.reads (d : Description) : Reads read d.toBytes d := by
  intro data position rest
  rw [read, bind_of_ok (Reads.bytes .description d.length_toBytes data position rest),
    d.ofBytes_toBytes]
  rfl

end WeatherRadar.Level3
