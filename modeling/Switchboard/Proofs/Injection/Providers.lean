import Switchboard.Proofs.Injection
import Switchboard.Proofs.Injection.Walk
import Switchboard.Proofs.Text.Trimming

/-!
Providers and the specifiers that lead to them. A head is taken as it is when a provider is added,
but a specifier loses the white space before its head when it is read. So a provider is reached by
its head exactly where the head without that white space is also served by it; a head that begins
with white space is accepted and then not found.
-/

namespace Switchboard

namespace Specifier

def bareHead (head : String) : String := String.ofList (Text.skipBlanks head.toList)

theorem bareHead_eq_self_iff {head : String} :
    bareHead head = head ↔ ∀ c ∈ head.toList.head?, Text.isBlank c = false := by
  rw [← Text.skipBlanks_eq_self_iff, bareHead, ← String.toList_inj, String.toList_ofList]

theorem parse_append_colon {head suffix : String} (colonless : ':' ∉ head.toList)
    (ends : ∀ c ∈ suffix.toList.getLast?, Text.isBlank c = false) :
    parse (head ++ ":" ++ suffix) =
      if bareHead head = "" then .error ⟨head ++ ":" ++ suffix, .emptyHead⟩
      else .ok (.prefixed (bareHead head) suffix) := by
  have whole : Text.trimmed (head ++ ":" ++ suffix).toList =
      Text.skipBlanks head.toList ++ ':' :: suffix.toList := by
    rw [← Text.trimmed_append_colon ends]
    simp
  cases bare : Text.skipBlanks head.toList with
  | nil =>
      rw [bare] at whole
      rw [bareHead, bare, if_pos rfl, parse, ofText, whole]
      rfl
  | cons c rest =>
      have nonempty : Text.skipBlanks head.toList ≠ [] := by simp [bare]
      have bareColonless : ':' ∉ Text.skipBlanks head.toList := fun member =>
        colonless ((List.dropWhile_sublist _).mem member)
      have reads := Reads.prefixed whole nonempty bareColonless
      rw [String.ofList_toList] at reads
      rw [if_neg (by simpa [bareHead] using nonempty)]
      exact parse_eq_ok_iff.mpr reads

end Specifier

namespace Registry

/-- A head under which a provider may be added. -/
structure IsHead (head : String) : Prop where
  nonempty : head ≠ ""
  colonless : ':' ∉ head.toList
  unreserved : head ≠ Specifier.entityHead

theorem addProvider_eq_ok_iff {registry changed : Registry} {head : String} {source : Provider} :
    registry.addProvider head source = .ok changed ↔
      IsHead head ∧
        changed = { registry with providers := registry.providers.insert head source } := by
  have malformed : (head.isEmpty || head.toList.contains ':') = true ↔
      ¬(head ≠ "" ∧ ':' ∉ head.toList) := by
    simp only [Bool.or_eq_true, String.isEmpty_iff, List.contains_iff_mem, not_and_or, ne_eq,
      not_not]
  unfold addProvider
  split
  next bad =>
    simp only [reduceCtorEq, false_iff, not_and]
    intro isHead
    exact absurd ⟨isHead.nonempty, isHead.colonless⟩ (malformed.mp bad)
  next sound =>
    obtain ⟨nonempty, colonless⟩ := not_not.mp (mt malformed.mpr sound)
    split
    next reserved =>
      simp only [reduceCtorEq, false_iff, not_and]
      intro isHead
      exact absurd reserved isHead.unreserved
    next unreserved =>
      rw [Except.ok.injEq, eq_comm]
      exact (and_iff_right ⟨nonempty, colonless, unreserved⟩).symm

/-- The registry after a provider was offered. One that is refused changes nothing. -/
def offerProvider (registry : Registry) (addition : String × Provider) : Registry :=
  match registry.addProvider addition.1 addition.2 with
  | .ok changed => changed
  | .error _ => registry

def addProviders (registry : Registry) (additions : List (String × Provider)) : Registry :=
  additions.foldl offerProvider registry

variable {registry : Registry}

theorem get?_addProviders_of_not_mem {additions : List (String × Provider)} {head : String}
    (absent : head ∉ additions.map Prod.fst) :
    (registry.addProviders additions).providers.get? head = registry.providers.get? head := by
  induction additions generalizing registry with
  | nil => rfl
  | cons addition additions ih =>
      simp only [List.map_cons, List.mem_cons, not_or] at absent
      refine (ih absent.2).trans ?_
      rw [offerProvider]
      split
      next changed added =>
        obtain ⟨-, rfl⟩ := addProvider_eq_ok_iff.mp added
        rw [Dictionary.get?_insert, if_neg absent.1]
      next => rfl

theorem get?_addProviders {before after : List (String × Provider)} {head : String}
    {source : Provider} {changed : Registry}
    (accepted : (registry.addProviders before).addProvider head source = .ok changed)
    (last : head ∉ after.map Prod.fst) :
    (registry.addProviders (before ++ (head, source) :: after)).providers.get? head =
      some source := by
  have taken : (registry.addProviders before).offerProvider (head, source) = changed := by
    rw [offerProvider, accepted]
  have parts : registry.addProviders (before ++ (head, source) :: after) =
      changed.addProviders after := by
    rw [addProviders, List.foldl_append, List.foldl_cons, ← taken]
    rfl
  obtain ⟨-, rfl⟩ := addProvider_eq_ok_iff.mp accepted
  rw [parts, get?_addProviders_of_not_mem last, Dictionary.get?_insert, if_pos rfl]

/-- A text is read as a specifier that leads to a provider with a suffix, whatever the aliases. -/
def Serves (registry : Registry) (text : String) (source : Provider) (suffix : String) : Prop :=
  ∃ specifier, Specifier.parse text = .ok specifier ∧
    ∀ aliases, registry.resolver aliases specifier = .ok (.provider source suffix)

theorem resolverOf_prefixed_eq_provider_iff {head suffix : String} {source : Provider} :
    registry.resolverOf (.prefixed head suffix) = .provider source suffix ↔
      head ≠ Specifier.entityHead ∧ registry.providers.get? head = some source := by
  constructor
  · intro served
    obtain ⟨_, other, ⟨⟩, found⟩ := resolverOf_eq_provider served
    exact ⟨other, found⟩
  · rintro ⟨other, found⟩
    simp only [resolverOf, if_neg other, found]

theorem serves_iff {head suffix : String} {source : Provider} (colonless : ':' ∉ head.toList)
    (ends : ∀ c ∈ suffix.toList.getLast?, Text.isBlank c = false) :
    registry.Serves (head ++ ":" ++ suffix) source suffix ↔
      Specifier.bareHead head ≠ "" ∧ Specifier.bareHead head ≠ Specifier.entityHead ∧
        registry.providers.get? (Specifier.bareHead head) = some source := by
  have parsed := Specifier.parse_append_colon colonless ends
  rw [Serves, parsed]
  split
  next empty => simp [empty]
  next nonempty =>
    constructor
    · rintro ⟨_, ⟨⟩, resolves⟩
      have served := resolves .empty
      rw [resolver_of_reaches .refl] at served
      exact ⟨nonempty, resolverOf_prefixed_eq_provider_iff.mp (Except.ok.inj served)⟩
    · rintro ⟨-, found⟩
      refine ⟨_, rfl, fun aliases => ?_⟩
      rw [resolver_of_reaches .refl, resolverOf_prefixed_eq_provider_iff.mpr found]

/-- A specifier with an accepted head leads to the provider added last under it, exactly where the
head without the white space before it does. A head that begins visibly is such a head. -/
theorem accepted_serves_iff {registry changed : Registry} {before after : List (String × Provider)}
    {head suffix : String} {source : Provider}
    (accepted : (registry.addProviders before).addProvider head source = .ok changed)
    (last : head ∉ after.map Prod.fst)
    (ends : ∀ c ∈ suffix.toList.getLast?, Text.isBlank c = false) :
    let final := registry.addProviders (before ++ (head, source) :: after)
    let bare := Specifier.bareHead head
    (final.Serves (head ++ ":" ++ suffix) source suffix ↔
      bare ≠ "" ∧ bare ≠ Specifier.entityHead ∧ final.providers.get? bare = some source) ∧
    ((∀ c ∈ head.toList.head?, Text.isBlank c = false) →
      final.Serves (head ++ ":" ++ suffix) source suffix) ∧
    Specifier.parse (head ++ ":" ++ suffix) =
      if bare = "" then .error ⟨head ++ ":" ++ suffix, .emptyHead⟩
      else .ok (.prefixed bare suffix) := by
  intro final bare
  obtain ⟨isHead, -⟩ := addProvider_eq_ok_iff.mp accepted
  have serves : final.Serves (head ++ ":" ++ suffix) source suffix ↔ _ :=
    serves_iff isHead.colonless ends
  refine ⟨serves, fun visible => serves.mpr ?_, Specifier.parse_append_colon isHead.colonless ends⟩
  rw [Specifier.bareHead_eq_self_iff.mpr visible]
  exact ⟨isHead.nonempty, isHead.unreserved, get?_addProviders accepted last⟩

def echo : Provider := fun suffix => some (.string suffix)

theorem accepted_serves_iff_replaced :
    let before : List (String × Provider) := [("env", fun _ => none)]
    let after : List (String × Provider) := [("kv", fun _ => none)]
    (∃ changed, (initial.addProviders before).addProvider "env" echo = .ok changed) ∧
      "env" ∉ after.map Prod.fst ∧
      (initial.addProviders (before ++ ("env", echo) :: after)).Serves
        ("env" ++ ":" ++ "a b") echo "a b" := by
  intro before after
  have accepted : (initial.addProviders before).addProvider "env" echo = .ok _ :=
    addProvider_eq_ok_iff.mpr ⟨⟨by decide, by decide, by decide⟩, rfl⟩
  have last : "env" ∉ after.map Prod.fst := by decide
  have ends : ∀ c ∈ "a b".toList.getLast?, Text.isBlank c = false := by
    rintro _ ⟨⟩
    rfl
  have visible : ∀ c ∈ "env".toList.head?, Text.isBlank c = false := by
    rintro _ ⟨⟩
    rfl
  exact ⟨⟨_, accepted⟩, last, (accepted_serves_iff accepted last ends).2.1 visible⟩

/-- The head is taken with its white space, and the specifier is looked up without it. -/
theorem spacedHead_not_served :
    let final := initial.addProviders [(" env", echo)]
    initial.addProvider " env" echo = .ok final ∧
      final.providers.get? " env" = some echo ∧
      Specifier.parse (" env" ++ ":" ++ "x") = .ok (.prefixed "env" "x") ∧
      (∀ aliases, final.resolver aliases (.prefixed "env" "x") =
        .ok (.absent (.unknownProvider "env"))) ∧
      ¬final.Serves (" env" ++ ":" ++ "x") echo "x" := by
  have accepted : initial.addProvider " env" echo = .ok (initial.addProviders [(" env", echo)]) :=
    addProvider_eq_ok_iff.mpr ⟨⟨by decide, by decide, by decide⟩, rfl⟩
  have found : (initial.addProviders [(" env", echo)]).providers.get? "env" = none := rfl
  have ends : ∀ c ∈ "x".toList.getLast?, Text.isBlank c = false := by
    rintro _ ⟨⟩
    rfl
  refine ⟨accepted, rfl, by decide, fun aliases => ?_, fun serves => ?_⟩
  · rw [resolver_of_reaches .refl]
    rfl
  · obtain ⟨-, -, served⟩ := (serves_iff (by decide) ends).mp serves
    exact absurd (found.symm.trans served) (by simp)

end Registry

end Switchboard
