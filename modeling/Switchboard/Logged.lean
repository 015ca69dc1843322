import Switchboard.Notice

/-! Work that may fail and that logs notices on the way. What was logged before a failure stays. -/

namespace Switchboard

@[ext]
structure Logged (ε α : Type) where
  notices : List Notice
  result : Except ε α

namespace Logged

variable {ε α β : Type}

def bind (work : Logged ε α) (next : α → Logged ε β) : Logged ε β :=
  match work.result with
  | .error error => ⟨work.notices, .error error⟩
  | .ok value => ⟨work.notices ++ (next value).notices, (next value).result⟩

instance : Monad (Logged ε) where
  pure value := ⟨[], .ok value⟩
  bind := bind

def lift (result : Except ε α) : Logged ε α := ⟨[], result⟩

def mapError {δ : Type} (transform : ε → δ) (work : Logged ε α) : Logged δ α :=
  ⟨work.notices, work.result.mapError transform⟩

theorem notices_map (transform : α → β) (work : Logged ε α) :
    (transform <$> work).notices = work.notices := by
  obtain ⟨notices, result⟩ := work
  cases result with
  | error error => rfl
  | ok value => exact List.append_nil notices

theorem result_map (transform : α → β) (work : Logged ε α) :
    (transform <$> work).result = work.result.map transform := by
  obtain ⟨notices, result⟩ := work
  cases result <;> rfl

theorem map_eq_ok_iff {transform : α → β} {work : Logged ε α} {made : β} :
    (transform <$> work).result = .ok made ↔
      ∃ value, work.result = .ok value ∧ transform value = made := by
  rw [result_map]
  cases work.result <;> simp [Except.map]

theorem map_eq_error_iff {transform : α → β} {work : Logged ε α} {error : ε} :
    (transform <$> work).result = .error error ↔ work.result = .error error := by
  rw [result_map]
  cases work.result <;> simp [Except.map]

theorem mapError_eq_ok_iff {δ : Type} {transform : ε → δ} {work : Logged ε α} {value : α} :
    (work.mapError transform).result = .ok value ↔ work.result = .ok value := by
  obtain ⟨notices, result⟩ := work
  cases result with
  | error error =>
      constructor
      · rintro ⟨⟩
      · rintro ⟨⟩
  | ok made =>
      constructor
      · rintro ⟨⟩
        rfl
      · rintro ⟨⟩
        rfl

theorem mapError_map {δ : Type} (change : ε → δ) (transform : α → β) (work : Logged ε α) :
    (transform <$> work).mapError change = transform <$> work.mapError change := by
  refine Logged.ext ?_ ?_
  · rw [notices_map]
    exact notices_map transform work
  · rw [result_map, mapError, mapError, result_map]
    cases work.result <;> rfl

theorem result_bind (work : Logged ε α) (next : α → Logged ε β) :
    (work >>= next).result = work.result >>= fun value => (next value).result := by
  obtain ⟨notices, result⟩ := work
  cases result <;> rfl

theorem ok_of_bind {work : Logged ε α} {next : α → Logged ε β} {made : β}
    (worked : (work >>= next).result = .ok made) :
    ∃ value, work.result = .ok value ∧ (next value).result = .ok made ∧
      (work >>= next).notices = work.notices ++ (next value).notices := by
  obtain ⟨notices, result⟩ := work
  cases result with
  | error error => cases worked
  | ok value => exact ⟨value, rfl, worked, rfl⟩

theorem id_map (work : Logged ε α) : id <$> work = work := by
  refine Logged.ext (notices_map id work) ?_
  rw [result_map]
  cases work.result <;> rfl

theorem bind_assoc {γ : Type} (work : Logged ε α) (next : α → Logged ε β)
    (last : β → Logged ε γ) :
    work >>= next >>= last = work >>= fun value => next value >>= last := by
  obtain ⟨notices, result⟩ := work
  cases result with
  | error error => rfl
  | ok value =>
      simp only [Bind.bind, bind]
      cases (next value).result with
      | error error => rfl
      | ok made => simp only [List.append_assoc]

instance : LawfulMonad (Logged ε) :=
  LawfulMonad.mk' (Logged ε) id_map (fun _ _ => rfl) bind_assoc

theorem result_mapM (work : α → Logged ε β) (list : List α) :
    (list.mapM work).result = list.mapM fun value => (work value).result := by
  induction list with
  | nil => rfl
  | cons value list ih => simp only [List.mapM_cons, result_bind, ih]; rfl

theorem notices_mapM {work : α → Logged ε β} {told : β → List Notice}
    (each : ∀ value made, (work value).result = .ok made → (work value).notices = told made)
    {list : List α} {all : List β} (worked : (list.mapM work).result = .ok all) :
    (list.mapM work).notices = all.flatMap told := by
  induction list generalizing all with
  | nil =>
      cases worked
      rfl
  | cons value list ih =>
      rw [List.mapM_cons] at worked ⊢
      obtain ⟨made, first, worked, noted⟩ := ok_of_bind worked
      obtain ⟨rest, later, ⟨⟩, notedLater⟩ := ok_of_bind worked
      rw [noted, notedLater, each value made first, ih later]
      exact congrArg (told made ++ ·) (List.append_nil _)

end Logged

end Switchboard
