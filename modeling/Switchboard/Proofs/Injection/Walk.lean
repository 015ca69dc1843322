import Switchboard.Proofs.Compilation

/-!
The walk through the aliases, step by step. It comes to a head with a suffix or to a name that
stands for nothing, or it never ends; a resolver is what is registered at its end, and a cycle is
reported exactly for the walks without one. In a finite table that shows after at most one step for
each alias.
-/

namespace Switchboard

variable {table : String → Option Specifier} {specifier later : Specifier} {target : Target}

namespace Specifier

def next? (table : String → Option Specifier) : Specifier → Option Specifier
  | .prefixed _ _ => none
  | .named name => table name

/-- Where a walk is after some steps, unless it ended before. -/
def walk (table : String → Option Specifier) (specifier : Specifier) : Nat → Option Specifier
  | 0 => some specifier
  | steps + 1 => (walk table specifier steps).bind (next? table)

def Reaches (table : String → Option Specifier) (specifier later : Specifier) : Prop :=
  ∃ steps, walk table specifier steps = some later

def Endless (table : String → Option Specifier) (specifier : Specifier) : Prop :=
  ∀ steps, walk table specifier steps ≠ none

theorem walk_succ (steps : Nat) :
    walk table specifier (steps + 1) =
      (next? table specifier).bind fun later => walk table later steps := by
  induction steps with
  | zero => simp [walk]
  | succ steps ih =>
      rw [walk, ih, Option.bind_assoc]
      rfl

theorem Reaches.refl : Reaches table specifier specifier := ⟨0, rfl⟩

theorem Reaches.step {last : Specifier} (first : next? table specifier = some later)
    (reaches : Reaches table later last) : Reaches table specifier last := by
  obtain ⟨steps, walked⟩ := reaches
  exact ⟨steps + 1, by rw [walk_succ, first, Option.bind_some, walked]⟩

theorem Reaches.induction {last : Specifier} {Holds : Specifier → Prop} (holds : Holds last)
    (back : ∀ earlier later, next? table earlier = some later → Holds later → Holds earlier)
    (reaches : Reaches table specifier last) : Holds specifier := by
  obtain ⟨steps, walked⟩ := reaches
  induction steps generalizing specifier with
  | zero =>
      obtain rfl := Option.some.inj walked
      exact holds
  | succ steps ih =>
      rw [walk_succ] at walked
      obtain ⟨later, first, rest⟩ := Option.bind_eq_some_iff.mp walked
      exact back specifier later first (ih rest)

theorem not_endless_of_stopped (reaches : Reaches table specifier later)
    (stops : next? table later = none) : ¬Endless table specifier := by
  obtain ⟨steps, walked⟩ := reaches
  intro endless
  apply endless (steps + 1)
  rw [walk, walked, Option.bind_some, stops]

end Specifier

open Specifier (Reaches Endless next? walk)

theorem Ends.of_next (first : next? table specifier = some later) (ends : Ends table later target) :
    Ends table specifier target := by
  cases specifier with
  | prefixed head suffix => cases first
  | named name => exact .next first ends

theorem ends_prefixed_iff {head suffix : String} :
    Ends table specifier (.prefixed head suffix) ↔
      Reaches table specifier (.prefixed head suffix) := by
  constructor
  · intro ends
    generalize same : Target.prefixed head suffix = target at ends
    induction ends with
    | prefixed head suffix =>
        cases same
        exact .refl
    | unknown => cases same
    | next known _ ih => exact .step known (ih same)
  · exact Reaches.induction (.prefixed head suffix) fun _ _ => Ends.of_next

theorem ends_unknown_iff {name : String} :
    Ends table specifier (.unknownAlias name) ↔
      Reaches table specifier (.named name) ∧ table name = none := by
  constructor
  · intro ends
    generalize same : Target.unknownAlias name = target at ends
    induction ends with
    | prefixed => cases same
    | unknown missing =>
        cases same
        exact ⟨.refl, missing⟩
    | next known _ ih => exact ⟨.step known (ih same).1, (ih same).2⟩
  · rintro ⟨reaches, missing⟩
    exact reaches.induction (.unknown missing) fun _ _ => Ends.of_next

theorem Ends.not_endless (ends : Ends table specifier target) : ¬Endless table specifier := by
  cases target with
  | prefixed head suffix => exact Specifier.not_endless_of_stopped (ends_prefixed_iff.mp ends) rfl
  | unknownAlias name =>
      obtain ⟨reaches, missing⟩ := ends_unknown_iff.mp ends
      exact Specifier.not_endless_of_stopped reaches missing

theorem LeadsIntoCycle.endless {start : String} (leads : LeadsIntoCycle table start) :
    Endless table (.named start) := by
  have further (steps : Nat) :
      ∃ name, walk table (.named start) steps = some (.named name) ∧ LeadsIntoCycle table name := by
    induction steps with
    | zero => exact ⟨start, rfl, leads⟩
    | succ steps ih =>
        obtain ⟨name, walked, leads⟩ := ih
        obtain ⟨next, renames, leadsOn⟩ := leads.exists_next
        refine ⟨next, ?_, leadsOn⟩
        rw [walk, walked]
        exact renames
  intro steps
  obtain ⟨name, walked, -⟩ := further steps
  rw [walked]
  exact Option.some_ne_none _

theorem Returns.walk_eq {start : String} {chain : List String}
    (returns : Returns table start chain) {steps : Nat} {name : String}
    (listed : chain[steps]? = some name) :
    walk table (.named start) steps = some (.named name) := by
  induction steps generalizing name with
  | zero =>
      rw [← List.head?_eq_getElem?, returns.start] at listed
      exact congrArg (some ∘ Specifier.named) (Option.some.inj listed)
  | succ steps ih =>
      obtain ⟨inside, rfl⟩ := List.getElem?_eq_some_iff.mp listed
      rw [walk, ih (List.getElem?_eq_getElem (by omega))]
      exact List.isChain_iff_getElem.mp returns.linked steps inside

/-! Rounds -/

/-- Follow aliases as long as rounds are left, and look each up in the whole table. -/
def followWithin (table : String → Option Specifier) :
    Nat → List String → Specifier → Option (Except AliasCycle Target)
  | 0, _, _ => none
  | _ + 1, _, .prefixed head suffix => some (.ok (.prefixed head suffix))
  | rounds + 1, chain, .named name =>
    if name ∈ chain then some (.error ⟨chain ++ [name]⟩)
    else
      match table name with
      | none => some (.ok (.unknownAlias name))
      | some later => followWithin table rounds (chain ++ [name]) later

/-- A round for each alias and one more are enough, since no alias is followed twice. -/
theorem followWithin_eq {unused : Dictionary Specifier} {chain : List String} {rounds : Nat}
    (remains : Remains table chain unused) (enough : unused.size < rounds) :
    followWithin table rounds chain specifier = some (follow unused chain specifier) := by
  fun_induction follow unused chain specifier generalizing rounds with
  | case1 unused chain head suffix =>
      obtain ⟨rounds, rfl⟩ := Nat.exists_eq_add_of_lt enough
      rfl
  | case2 unused chain name met =>
      obtain ⟨rounds, rfl⟩ := Nat.exists_eq_add_of_lt enough
      rw [followWithin, if_pos met]
  | case3 unused chain name fresh missing =>
      obtain ⟨rounds, rfl⟩ := Nat.exists_eq_add_of_lt enough
      rw [followWithin, if_neg fresh, ← remains name fresh, missing]
  | case4 unused chain name fresh next known fewer ih =>
      obtain ⟨rounds, rfl⟩ := Nat.exists_eq_add_of_lt enough
      rw [followWithin, if_neg fresh, ← remains name fresh, known]
      exact ih (remains.erase name) (by omega)

/-! The resolver at the end of a walk -/

variable {aliases : Dictionary Specifier}

theorem endless_iff :
    Endless aliases.get? specifier ↔
      ∃ start chain, specifier = .named start ∧ Returns aliases.get? start chain := by
  rcases ends_or_returns aliases specifier with
    ⟨target, -, ends⟩ | ⟨start, chain, -, rfl, returns⟩
  · refine iff_of_false ends.not_endless ?_
    rintro ⟨start, chain, rfl, returns⟩
    exact ends.not_leadsIntoCycle start rfl returns.leadsIntoCycle
  · exact iff_of_true returns.leadsIntoCycle.endless ⟨start, chain, rfl, returns⟩

namespace Registry

/-- A resolver that fits the walk from a specifier, and the log that goes with it. -/
structure Fits (registry : Registry) (table : String → Option Specifier) (specifier : Specifier)
    (logged : Logged AliasCycle Resolver) : Prop where
  complete : (∃ head suffix, Reaches table specifier (.prefixed head suffix)) ∨
    (∃ name, Reaches table specifier (.named name) ∧ table name = none) ∨ Endless table specifier
  entity : ∀ suffix, Reaches table specifier (.prefixed Specifier.entityHead suffix) →
    logged.result = .ok (match registry.parsers.get? suffix with
      | some parser => .entity parser
      | none => .absent (.unknownParser suffix))
  provider : ∀ head suffix, head ≠ Specifier.entityHead →
    Reaches table specifier (.prefixed head suffix) →
    logged.result = .ok (match registry.providers.get? head with
      | some source => .provider source suffix
      | none => .absent (.unknownProvider head))
  unknown : ∀ name, Reaches table specifier (.named name) → table name = none →
    logged.result = .ok (.absent (.unknownAlias name))
  endless : (∃ cycle, logged.result = .error cycle) ↔ Endless table specifier
  cyclic : ∀ chain, logged.result = .error ⟨chain⟩ → ∃ start, specifier = .named start ∧
    Returns table start chain ∧
    ∀ steps name, chain[steps]? = some name → walk table specifier steps = some (.named name)
  served : ∀ source suffix, logged.result = .ok (.provider source suffix) →
    ∃ head, head ≠ Specifier.entityHead ∧ Reaches table specifier (.prefixed head suffix) ∧
      registry.providers.get? head = some source
  warned : ∀ missing, logged.result = .ok (.absent missing) → logged.notices = [missing]
  unwarned : (∀ missing, logged.result ≠ .ok (.absent missing)) → logged.notices = []

variable {registry : Registry}

theorem compile_eq_resolveLogged {text : String} (read : Specifier.parse text = .ok specifier) :
    registry.compile aliases text =
      (registry.resolveLogged aliases specifier).mapError .aliasCycle := by
  rw [compile, read]

theorem resolver_of_reaches {head suffix : String}
    (reaches : Reaches aliases.get? specifier (.prefixed head suffix)) :
    registry.resolver aliases specifier = .ok (registry.resolverOf (.prefixed head suffix)) :=
  resolver_eq_ok_iff.mpr ⟨_, ends_prefixed_iff.mpr reaches, rfl⟩

theorem resolverOf_eq_provider {target : Target} {source : Provider} {suffix : String}
    (served : registry.resolverOf target = .provider source suffix) :
    ∃ head, head ≠ Specifier.entityHead ∧ target = .prefixed head suffix ∧
      registry.providers.get? head = some source := by
  cases target with
  | unknownAlias name => cases served
  | prefixed head rest =>
      unfold resolverOf at served
      dsimp only at served
      split at served
      next => split at served <;> cases served
      next other =>
        split at served
        next found =>
          cases served
          exact ⟨head, other, rfl, found⟩
        next => cases served

theorem fits_resolveLogged (registry : Registry) (aliases : Dictionary Specifier)
    (specifier : Specifier) :
    registry.Fits aliases.get? specifier (registry.resolveLogged aliases specifier) := by
  constructor
  case complete =>
    rcases ends_or_returns aliases specifier with
      ⟨target, -, ends⟩ | ⟨start, chain, -, rfl, returns⟩
    · cases target with
      | prefixed head suffix => exact .inl ⟨head, suffix, ends_prefixed_iff.mp ends⟩
      | unknownAlias name => exact .inr (.inl ⟨name, ends_unknown_iff.mp ends⟩)
    · exact .inr (.inr returns.leadsIntoCycle.endless)
  case entity =>
    intro suffix reaches
    rw [result_resolveLogged, resolver_of_reaches reaches]
    cases found : registry.parsers.get? suffix <;> simp [resolverOf, found]
  case provider =>
    intro head suffix other reaches
    rw [result_resolveLogged, resolver_of_reaches reaches]
    cases found : registry.providers.get? head <;> simp [resolverOf, other, found]
  case unknown =>
    intro name reaches missing
    rw [result_resolveLogged]
    exact resolver_eq_ok_iff.mpr ⟨_, ends_unknown_iff.mpr ⟨reaches, missing⟩, rfl⟩
  case endless =>
    rw [endless_iff, result_resolveLogged]
    constructor
    · rintro ⟨cycle, failed⟩
      obtain ⟨start, named, returns⟩ := resolver_eq_error_iff.mp failed
      exact ⟨start, cycle.chain, named, returns⟩
    · rintro ⟨start, chain, named, returns⟩
      exact ⟨⟨chain⟩, resolver_eq_error_iff.mpr ⟨start, named, returns⟩⟩
  case cyclic =>
    intro chain failed
    rw [result_resolveLogged] at failed
    obtain ⟨start, rfl, returns⟩ := resolver_eq_error_iff.mp failed
    exact ⟨start, rfl, returns, fun _ _ => returns.walk_eq⟩
  case served =>
    intro source suffix resolved
    rw [result_resolveLogged] at resolved
    obtain ⟨target, ends, same⟩ := resolver_eq_ok_iff.mp resolved
    obtain ⟨head, other, rfl, found⟩ := resolverOf_eq_provider same.symm
    exact ⟨head, other, ends_prefixed_iff.mp ends, found⟩
  case warned =>
    intro missing resolved
    rw [notices_resolveLogged resolved]
    rfl
  case unwarned =>
    intro present
    cases resolved : (registry.resolveLogged aliases specifier).result with
    | error cycle =>
        rw [result_resolveLogged] at resolved
        rw [resolveLogged, resolved]
        rfl
    | ok resolver =>
        rw [notices_resolveLogged resolved]
        cases resolver with
        | absent missing => exact absurd resolved (present missing)
        | provider => rfl
        | entity => rfl

/-- Resolving ends in any table, with what the walk leads to. -/
theorem resolver_fits_walk (registry : Registry) (aliases : Dictionary Specifier)
    (specifier : Specifier) :
    registry.Fits aliases.get? specifier (registry.resolveLogged aliases specifier) ∧
    (∀ rounds > aliases.size,
      (followWithin aliases.get? rounds [] specifier).map (·.map registry.resolverOf) =
        some (registry.resolver aliases specifier)) ∧
    ∀ text, Specifier.parse text = .ok specifier →
      registry.compile aliases text =
        (registry.resolveLogged aliases specifier).mapError .aliasCycle := by
  refine ⟨registry.fits_resolveLogged aliases specifier, ?_, fun _ => compile_eq_resolveLogged⟩
  intro rounds enough
  rw [followWithin_eq (fun _ _ => rfl) enough, Option.map_some, resolver]

end Registry

end Switchboard
