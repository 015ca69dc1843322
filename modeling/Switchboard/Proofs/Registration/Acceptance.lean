import Mathlib.Data.List.Induction
import Switchboard.Proofs.Dictionary
import Switchboard.Proofs.Injection
import Switchboard.Proofs.Predicate.Parsing
import Switchboard.Proofs.Registration
import Switchboard.Proofs.Text.Casing
import Switchboard.Proofs.Text.Trimming

/-!
Building routes call by call. A call is refused by the first check that fails and then changes
nothing; a call that is accepted adds its route at the end or puts its specifier under its name. So
what is built is told by the accepted calls: their routes in order, and for each name the last
specifier it was given.
-/

namespace Switchboard

namespace Specifier

theorem text_of_parse {source : String} {specifier : Specifier}
    (read : parse source = .ok specifier) : specifier.text = Text.trim source := by
  rw [parse_eq_ok_iff] at read
  cases read with
  | prefixed whole _ _ =>
      rw [Text.trim, whole, text, ← String.toList_inj]
      simp
  | named whole _ _ => rw [Text.trim, whole, text]

theorem parse_trim {source : String} {specifier : Specifier}
    (read : parse source = .ok specifier) :
    parse (Text.trim source) = .ok specifier := by
  rw [parse_eq_ok_iff] at read ⊢
  have same : Text.trimmed (Text.trim source).toList = Text.trimmed source.toList := by
    rw [Text.trim, String.toList_ofList, Text.trimmed_trimmed]
  cases read with
  | prefixed whole nonempty colonless => exact .prefixed (same.trans whole) nonempty colonless
  | named whole nonempty colonless => exact .named (same.trans whole) nonempty colonless

end Specifier

namespace Routes

variable {m : Type → Type}

namespace Verb

def name : Verb → String
  | .get => "GET"
  | .post => "POST"
  | .put => "PUT"
  | .delete => "DELETE"

theorem name_method (verb : Verb) : verb.method.name = verb.name := by
  cases verb <;> rfl

theorem isToken_name (verb : Verb) : isToken verb.name = true := by
  rw [← name_method]
  exact verb.method.valid

end Verb

structure Wish (m : Type → Type) where
  method : String
  path : String
  expression : Option String
  registration : Registration m

namespace Offer

def call : Offer m → Call m
  | .on verb path registration => .route verb.method path none registration
  | .onIf verb path expression registration =>
    .route verb.method path (some expression) registration
  | .onRequest method path expression registration => .request method path expression registration
  | .define name specifier => .define name specifier

theorem change_call (offer : Offer m) : offer.call.change = offer.change := by
  cases offer <;> rfl

def wish? : Offer m → Option (Wish m)
  | .on verb path registration => some ⟨verb.name, path, none, registration⟩
  | .onIf verb path expression registration => some ⟨verb.name, path, some expression, registration⟩
  | .onRequest method path expression registration =>
    some ⟨(Text.trim method).toUpper, path, expression, registration⟩
  | .define .. => none

end Offer

def IsAliasName (name : String) : Prop := name ≠ "" ∧ ':' ∉ name.toList

/-- The first check of a call that fails, with its error. -/
inductive Refused : Offer m → DeployError → Prop where
  | method {method path : String} {expression : Option String} {registration : Registration m} :
      isToken (Text.trim method).toUpper = false →
      Refused (.onRequest method path expression registration) (.invalidMethod method)
  | template {offer : Offer m} {wish : Wish m} {error : TemplateError} :
      offer.wish? = some wish → isToken wish.method → Template.parse wish.path = .error error →
      Refused offer (.invalidTemplate error)
  | condition {offer : Offer m} {wish : Wish m} {template : Template} {expression : String}
      {error : Predicate.ParseError} :
      offer.wish? = some wish → isToken wish.method → Template.parse wish.path = .ok template →
      wish.expression = some expression → Predicate.parse expression = .error error →
      Refused offer (.invalidPredicate error)
  | name {name specifier : String} : ¬ IsAliasName (Text.trim name) →
      Refused (.define name specifier) (.invalidAlias (Text.trim name))
  | specifier {name specifier : String} {error : SpecifierError} : IsAliasName (Text.trim name) →
      Specifier.parse specifier = .error error →
      Refused (.define name specifier) (.invalidSpecifier error)

inductive Conditioned : Option String → Option (String × Predicate) → Prop where
  | none : Conditioned none none
  | some {expression : String} {predicate : Predicate} :
      Predicate.parse expression = .ok predicate →
      Conditioned (some expression) (some (expression, predicate))

structure Wish.Grants (wish : Wish m) (route : Route m) : Prop where
  method : route.method.name = wish.method
  template : Template.parse wish.path = .ok route.template
  condition : Conditioned wish.expression route.condition
  registration : route.registration = wish.registration

/-- The route that an accepted call registers. -/
def Registers (offer : Offer m) (route : Route m) : Prop :=
  ∃ wish, offer.wish? = some wish ∧ wish.Grants route

inductive Defines : Offer m → String → Specifier → Prop where
  | define {name source : String} {specifier : Specifier} : IsAliasName (Text.trim name) →
      Specifier.parse source = .ok specifier →
      Defines (.define name source) (Text.trim name) specifier

/-! One call -/

theorem run_register (method : Method) (path : String) (expression : Option String)
    (registration : Registration m) (routes : Routes m) :
    (register method path expression registration).run routes =
      match Template.parse path, condition? expression with
      | .error error, _ => .error (.invalidTemplate error) routes
      | .ok _, .error error => .error error routes
      | .ok template, .ok condition =>
        .ok () { routes with
          routes := routes.routes ++ [{ method, template, condition, registration }] } := by
  unfold register
  cases Template.parse path with
  | error error => rfl
  | ok template =>
      cases condition? expression with
      | error error => rfl
      | ok condition => rfl

theorem Conditioned.condition? {expression : Option String}
    {condition : Option (String × Predicate)} (conditioned : Conditioned expression condition) :
    Routes.condition? expression = .ok condition := by
  cases conditioned with
  | none => rfl
  | some read => simp only [Routes.condition?, read]

theorem isAliasName_iff {name : String} :
    (name.isEmpty || name.toList.contains ':') = true ↔ ¬ IsAliasName name := by
  simp only [IsAliasName, Bool.or_eq_true, String.isEmpty_iff, List.contains_iff_mem, not_and_or,
    ne_eq, not_not]

theorem run_addAlias {name : String} (sound : IsAliasName (Text.trim name)) (source : String)
    (routes : Routes m) :
    (addAlias name source).run routes =
      match Specifier.parse source with
      | .error error => .error (.invalidSpecifier error) routes
      | .ok specifier =>
        .ok () { routes with aliases := routes.aliases.insert (Text.trim name) specifier } := by
  have accepted : ¬ ((Text.trim name).isEmpty || (Text.trim name).toList.contains ':') = true :=
    fun refused => isAliasName_iff.mp refused sound
  unfold addAlias
  simp only [accepted]
  cases Specifier.parse source with
  | error error => rfl
  | ok specifier => rfl

namespace Offer

theorem change_eq_register {offer : Offer m} {wish : Wish m} (asked : offer.wish? = some wish)
    (method : Method) (named : method.name = wish.method) :
    offer.change = register method wish.path wish.expression wish.registration := by
  have known (verb : Verb) (same : method.name = verb.name) : verb.method = method := by
    rw [← verb.name_method, ← Method.ofName?_eq_some] at same
    exact Option.some.inj (((Method.ofName?_eq_some _ _).mpr rfl).symm.trans same)
  cases offer with
  | on verb path registration =>
      obtain rfl := Option.some.inj asked
      rw [change, Routes.on, known verb named]
  | onIf verb path expression registration =>
      obtain rfl := Option.some.inj asked
      rw [change, Routes.onIf, known verb named]
  | onRequest name path expression registration =>
      obtain rfl := Option.some.inj asked
      rw [change, Routes.onRequest, (Method.ofName?_eq_some _ _).mpr named]
  | define => cases asked

end Offer

theorem Registers.run {offer : Offer m} {route : Route m} (registers : Registers offer route)
    (routes : Routes m) :
    offer.change.run routes = .ok () { routes with routes := routes.routes ++ [route] } := by
  obtain ⟨wish, asked, method, template, condition, registration⟩ := registers
  rw [Offer.change_eq_register asked _ method, run_register, template, condition.condition?,
    ← registration]

theorem Defines.run {offer : Offer m} {name : String} {specifier : Specifier}
    (defines : Defines offer name specifier) (routes : Routes m) :
    offer.change.run routes =
      .ok () { routes with aliases := routes.aliases.insert name specifier } := by
  cases defines with
  | @define name source specifier sound read =>
      change (addAlias name source).run routes = _
      rw [run_addAlias sound, read]

theorem Refused.run {offer : Offer m} {error : DeployError} (refused : Refused offer error)
    (routes : Routes m) : offer.change.run routes = .error error routes := by
  cases refused with
  | @method method path expression registration unnamed =>
      have none : Method.ofName? (Text.trim method).toUpper = none := by
        rw [Method.ofName?, dif_neg (by simp [unnamed])]
      change (onRequest method path expression registration).run routes = _
      rw [onRequest, none]
      rfl
  | @template _ wish error asked token unread =>
      rw [Offer.change_eq_register asked ⟨wish.method, token⟩ rfl, run_register, unread]
  | @condition _ wish template expression error asked token read given unread =>
      have unconditioned : condition? wish.expression = .error (.invalidPredicate error) := by
        simp only [given, condition?, unread]
      rw [Offer.change_eq_register asked ⟨wish.method, token⟩ rfl, run_register, read,
        unconditioned]
  | @name name source unsound =>
      change (addAlias name source).run routes = _
      unfold addAlias
      simp only [isAliasName_iff.mpr unsound]
      rfl
  | @specifier name source error sound unread =>
      change (addAlias name source).run routes = _
      rw [run_addAlias sound, unread]

theorem refused_or_registers {offer : Offer m} {wish : Wish m} (asked : offer.wish? = some wish)
    (token : isToken wish.method) :
    (∃ error, Refused offer error) ∨ ∃ route, Registers offer route := by
  cases read : Template.parse wish.path with
  | error error => exact .inl ⟨_, .template asked token read⟩
  | ok template =>
      cases given : wish.expression with
      | none =>
          refine .inr ⟨⟨⟨wish.method, token⟩, template, none, wish.registration⟩, wish, asked, ?_⟩
          exact ⟨rfl, read, given ▸ .none, rfl⟩
      | some expression =>
          cases parsed : Predicate.parse expression with
          | error error => exact .inl ⟨_, .condition asked token read given parsed⟩
          | ok predicate =>
              refine .inr ⟨⟨⟨wish.method, token⟩, template, some (expression, predicate),
                wish.registration⟩, wish, asked, ?_⟩
              exact ⟨rfl, read, given ▸ .some parsed, rfl⟩

theorem Offer.outcome (offer : Offer m) :
    (∃ error, Refused offer error) ∨ (∃ route, Registers offer route) ∨
      ∃ name specifier, Defines offer name specifier := by
  cases offer with
  | on verb path registration =>
      have asked : (on verb path registration).wish? =
          some ⟨verb.name, path, none, registration⟩ := rfl
      exact (refused_or_registers asked verb.isToken_name).imp_right .inl
  | onIf verb path expression registration =>
      have asked : (onIf verb path expression registration).wish? =
          some ⟨verb.name, path, some expression, registration⟩ := rfl
      exact (refused_or_registers asked verb.isToken_name).imp_right .inl
  | onRequest method path expression registration =>
      cases token : isToken (Text.trim method).toUpper with
      | false => exact .inl ⟨_, .method token⟩
      | true =>
          have asked : (onRequest method path expression registration).wish? =
              some ⟨(Text.trim method).toUpper, path, expression, registration⟩ := rfl
          exact (refused_or_registers asked token).imp_right .inl
  | define name source =>
      by_cases sound : IsAliasName (Text.trim name)
      · cases read : Specifier.parse source with
        | error error => exact .inl ⟨_, .specifier sound read⟩
        | ok specifier => exact .inr (.inr ⟨_, _, .define sound read⟩)
      · exact .inl ⟨_, .name sound⟩

theorem run_eq_error_iff {offer : Offer m} {routes left : Routes m} {error : DeployError} :
    offer.change.run routes = .error error left ↔ Refused offer error ∧ left = routes := by
  constructor
  · intro ran
    rcases offer.outcome with ⟨first, refused⟩ | ⟨route, registers⟩ | ⟨name, specifier, defines⟩
    · cases ran.symm.trans (refused.run routes)
      exact ⟨refused, rfl⟩
    · cases ran.symm.trans (registers.run routes)
    · cases ran.symm.trans (defines.run routes)
  · rintro ⟨refused, rfl⟩
    exact refused.run left

theorem run_eq_ok_iff {offer : Offer m} {routes left : Routes m} :
    offer.change.run routes = .ok () left ↔
      (∃ route, Registers offer route ∧ left = { routes with routes := routes.routes ++ [route] }) ∨
        ∃ name specifier, Defines offer name specifier ∧
          left = { routes with aliases := routes.aliases.insert name specifier } := by
  constructor
  · intro ran
    rcases offer.outcome with ⟨first, refused⟩ | ⟨route, registers⟩ | ⟨name, specifier, defines⟩
    · cases ran.symm.trans (refused.run routes)
    · cases ran.symm.trans (registers.run routes)
      exact .inl ⟨route, registers, rfl⟩
    · cases ran.symm.trans (defines.run routes)
      exact .inr ⟨name, specifier, defines, rfl⟩
  · rintro (⟨route, registers, rfl⟩ | ⟨name, specifier, defines, rfl⟩)
    · exact registers.run routes
    · exact defines.run routes

theorem Refused.not_registers {offer : Offer m} {error : DeployError}
    (refused : Refused offer error) (route : Route m) : ¬ Registers offer route :=
  fun registers => nomatch (refused.run .empty).symm.trans (registers.run .empty)

theorem Refused.not_defines {offer : Offer m} {error : DeployError} (refused : Refused offer error)
    (name : String) (specifier : Specifier) : ¬ Defines offer name specifier :=
  fun defines => nomatch (refused.run .empty).symm.trans (defines.run .empty)

theorem Registers.not_defines {offer : Offer m} {route : Route m}
    (registers : Registers offer route) (name : String) (specifier : Specifier) :
    ¬ Defines offer name specifier := by
  rintro ⟨-, -⟩
  obtain ⟨wish, asked, -⟩ := registers
  cases asked

/-! All calls -/

/-- The routes of the accepted calls, in the order of the calls. -/
inductive Lists : List (Offer m) → List (Route m) → Prop where
  | nil : Lists [] []
  | registered {offers : List (Offer m)} {routes : List (Route m)} {offer : Offer m}
      {route : Route m} : Lists offers routes → Registers offer route →
      Lists (offers ++ [offer]) (routes ++ [route])
  | passed {offers : List (Offer m)} {routes : List (Route m)} {offer : Offer m} :
      Lists offers routes → (∀ route, ¬ Registers offer route) → Lists (offers ++ [offer]) routes

/-- A specifier that a name was given and that no later call replaced. -/
def LastDefined (offers : List (Offer m)) (name : String) (specifier : Specifier) : Prop :=
  ∃ front offer back, offers = front ++ offer :: back ∧ Defines offer name specifier ∧
    ∀ later ∈ back, ∀ other, ¬ Defines later name other

/-- A route as it may be stored. -/
structure Stored (route : Route m) : Prop where
  upper : route.method.name.toUpper = route.method.name
  canonical : Template.parse route.template.text = .ok route.template
  read : ∀ expression predicate, route.condition = some (expression, predicate) →
    Predicate.parse expression = .ok predicate

/-- A specifier as it may be stored under a name: its text is the one given in a call, without the
white space around it. -/
structure Named (offers : List (Offer m)) (name : String) (specifier : Specifier) : Prop where
  sound : IsAliasName name
  trimmed : Text.trim name = name
  canonical : Specifier.parse specifier.text = .ok specifier
  given : ∃ spelled source, .define spelled source ∈ offers ∧ Text.trim spelled = name ∧
    Specifier.parse source = .ok specifier ∧ specifier.text = Text.trim source

structure Built (offers : List (Offer m)) (routes : Routes m) : Prop where
  lists : Lists offers routes.routes
  defined : ∀ name specifier,
    routes.aliases.get? name = some specifier ↔ LastDefined offers name specifier
  ordered : Dictionary.Ordered routes.aliases.entries

theorem lastDefined_append_singleton {offers : List (Offer m)} {offer : Offer m} {name : String}
    {specifier : Specifier} :
    LastDefined (offers ++ [offer]) name specifier ↔
      Defines offer name specifier ∨
        (∀ other, ¬ Defines offer name other) ∧ LastDefined offers name specifier := by
  constructor
  · rintro ⟨front, chosen, back, whole, defines, last⟩
    cases back using List.reverseRecOn with
    | nil =>
        rw [List.singleton_inj.mp (List.append_inj' whole rfl).2]
        exact .inl defines
    | append_singleton back later =>
        rw [← List.cons_append, ← List.append_assoc] at whole
        obtain ⟨rfl, same⟩ := List.append_inj' whole rfl
        obtain rfl := List.singleton_inj.mp same
        refine .inr ⟨last offer (by simp), front, chosen, back, rfl, defines, ?_⟩
        exact fun later member => last later (List.mem_append_left _ member)
  · rintro (defines | ⟨silent, front, chosen, back, rfl, defines, last⟩)
    · exact ⟨offers, offer, [], rfl, defines, by simp⟩
    · refine ⟨front, chosen, back ++ [offer], by simp, defines, fun later member => ?_⟩
      rcases List.mem_append.mp member with earlier | added
      · exact last later earlier
      · rw [List.mem_singleton.mp added]
        exact silent

theorem lastDefined_of_silent {offers : List (Offer m)} {offer : Offer m}
    (silent : ∀ name specifier, ¬ Defines offer name specifier) {name : String}
    {specifier : Specifier} :
    LastDefined (offers ++ [offer]) name specifier ↔ LastDefined offers name specifier := by
  rw [lastDefined_append_singleton]
  simp [silent]

theorem Defines.unique {offer : Offer m} {name other : String} {specifier found : Specifier}
    (defines : Defines offer name specifier) (same : Defines offer other found) :
    other = name ∧ found = specifier := by
  cases defines with
  | define _ read =>
      cases same with
      | define _ again => exact ⟨rfl, Except.ok.inj (again.symm.trans read)⟩

theorem built_empty : Built ([] : List (Offer m)) .empty where
  lists := .nil
  defined name specifier := by
    constructor
    · rintro ⟨⟩
    · rintro ⟨front, offer, back, whole, -⟩
      simp at whole
  ordered := .nil

theorem Built.after {offers : List (Offer m)} {routes : Routes m} (built : Built offers routes)
    (offer : Offer m) : Built (offers ++ [offer]) (offer.change.after routes) := by
  rcases offer.outcome with ⟨error, refused⟩ | ⟨route, registers⟩ | ⟨name, specifier, defines⟩
  · have kept : offer.change.after routes = routes := by rw [Change.after, refused.run]
    rw [kept]
    exact ⟨.passed built.lists refused.not_registers,
      fun name specifier => (built.defined name specifier).trans
        (lastDefined_of_silent refused.not_defines).symm, built.ordered⟩
  · have added :
        offer.change.after routes = { routes with routes := routes.routes ++ [route] } := by
      rw [Change.after, registers.run]
    rw [added]
    exact ⟨.registered built.lists registers,
      fun name specifier => (built.defined name specifier).trans
        (lastDefined_of_silent registers.not_defines).symm, built.ordered⟩
  · have replaced : offer.change.after routes =
        { routes with aliases := routes.aliases.insert name specifier } := by
      rw [Change.after, defines.run]
    rw [replaced]
    refine ⟨.passed built.lists fun route registers => registers.not_defines _ _ defines, ?_,
      Dictionary.ordered_insertEntry _ _ built.ordered⟩
    intro other found
    rw [Dictionary.get?_insert, lastDefined_append_singleton]
    split
    next same =>
      subst same
      constructor
      · rintro ⟨⟩
        exact .inl defines
      · rintro (same | ⟨silent, -⟩)
        · rw [(defines.unique same).2]
        · exact absurd defines (silent specifier)
    next different =>
      have silent (found : Specifier) : ¬ Defines offer other found :=
        fun same => different (defines.unique same).1
      rw [built.defined]
      simp [silent]

theorem built_build (offers : List (Offer m)) : Built offers (build (offers.map Offer.call)) := by
  induction offers using List.reverseRecOn with
  | nil => exact built_empty
  | append_singleton offers offer ih =>
      rw [List.map_append, List.map_singleton, build_append_singleton, Offer.change_call]
      exact ih.after offer

theorem Lists.registers_of_mem {offers : List (Offer m)} {routes : List (Route m)}
    (lists : Lists offers routes) {route : Route m} (member : route ∈ routes) :
    ∃ offer ∈ offers, Registers offer route := by
  induction lists with
  | nil => cases member
  | @registered offers routes offer added _ registers ih =>
      rcases List.mem_append.mp member with earlier | last
      · obtain ⟨offer, inside, registers⟩ := ih earlier
        exact ⟨offer, List.mem_append_left _ inside, registers⟩
      · rw [List.mem_singleton.mp last]
        exact ⟨offer, by simp, registers⟩
  | passed _ _ ih =>
      obtain ⟨offer, inside, registers⟩ := ih member
      exact ⟨offer, List.mem_append_left _ inside, registers⟩

theorem Offer.toUpper_method {offer : Offer m} {wish : Wish m} (asked : offer.wish? = some wish) :
    wish.method.toUpper = wish.method := by
  have verbs (verb : Verb) : verb.name.toUpper = verb.name := by
    rw [← String.toList_inj, Text.toList_toUpper]
    cases verb <;> rfl
  cases offer with
  | on verb path registration =>
      obtain rfl := Option.some.inj asked
      exact verbs verb
  | onIf verb path expression registration =>
      obtain rfl := Option.some.inj asked
      exact verbs verb
  | onRequest method path expression registration =>
      obtain rfl := Option.some.inj asked
      exact Text.toUpper_toUpper _
  | define => cases asked

theorem Registers.stored {offer : Offer m} {route : Route m} (registers : Registers offer route) :
    Stored route := by
  obtain ⟨wish, asked, grants⟩ := registers
  refine ⟨?_, Template.parse_text grants.template, ?_⟩
  · rw [grants.method]
    exact Offer.toUpper_method asked
  · intro expression predicate condition
    have conditioned := grants.condition
    rw [condition] at conditioned
    generalize wish.expression = given at conditioned
    cases conditioned with
    | some read => exact read

theorem LastDefined.named {offers : List (Offer m)} {name : String} {specifier : Specifier}
    (last : LastDefined offers name specifier) : Named offers name specifier := by
  obtain ⟨front, offer, back, rfl, defines, -⟩ := last
  cases defines with
  | @define spelled source specifier sound read =>
      refine ⟨sound, Text.trim_trim spelled, ?_, spelled, source, by simp, rfl, read,
        Specifier.text_of_parse read⟩
      rw [Specifier.text_of_parse read]
      exact Specifier.parse_trim read

/-- Routes are built from the offers they accept. An offer is refused by the first check it fails,
and is then as if it had not been made; the routes of the others are listed in their order, and each
name stands for the specifier it was given last. -/
theorem build_accepted (offers : List (Offer m)) :
    (∀ (offer : Offer m) (routes left : Routes m) (error : DeployError),
      offer.change.run routes = .error error left ↔ Refused offer error ∧ left = routes) ∧
    (∀ (offer : Offer m) (routes left : Routes m), offer.change.run routes = .ok () left ↔
      (∃ route, Registers offer route ∧ left = { routes with routes := routes.routes ++ [route] }) ∨
        ∃ name specifier, Defines offer name specifier ∧
          left = { routes with aliases := routes.aliases.insert name specifier }) ∧
    Built offers (build (offers.map Offer.call)) ∧
    (∀ route ∈ (build (offers.map Offer.call)).routes, Stored route) ∧
    ∀ name specifier, (name, specifier) ∈ (build (offers.map Offer.call)).aliases.entries →
      Named offers name specifier := by
  have built := built_build offers
  refine ⟨fun _ _ _ _ => run_eq_error_iff, fun _ _ _ => run_eq_ok_iff, built, ?_, ?_⟩
  · intro route member
    obtain ⟨offer, -, registers⟩ := built.lists.registers_of_mem member
    exact registers.stored
  · intro name specifier member
    have found := (Dictionary.mem_iff_lookup_of_ordered built.ordered).mp member
    exact ((built.defined name specifier).mp found).named

def searched : Offer Id :=
  .onRequest " search " "/shelf//\x7bid\x7d/" (some "true")
    (.simple fun exchange _ => ⟨exchange, .succeeded⟩)

def offered : List (Offer Id) :=
  [.define " ds " "db:main", searched, .define "d:s" "db", .define "ds" " env:A:B c "]

theorem parse_true : Predicate.parse "true" = .ok (.constant true) := by
  have word : Predicate.Grammar.Token.Spells "true".toList [] (.word "true") :=
    Predicate.spells_word.mpr ⟨by decide, rfl, rfl⟩
  exact Predicate.Reads.parse ⟨_, .single (.single .truth), [], word.then (.done []), by simp⟩

theorem build_accepted_offered :
    (∃ route ∈ (build (offered.map Offer.call)).routes, Stored route) ∧
      Named offered "ds" (.prefixed "env" "A:B c") := by
  obtain ⟨-, -, built, stored, named⟩ := build_accepted offered
  have listed : (build (offered.map Offer.call)).routes ≠ [] := by
    have upper : (Text.trim " search ").toUpper = "SEARCH" := by
      rw [← String.toList_inj, Text.toList_toUpper]
      decide
    have method : Method.ofName? (Text.trim " search ").toUpper =
        some ⟨"SEARCH", by decide⟩ := (Method.ofName?_eq_some _ _).mpr upper.symm
    have template : Template.parse "/shelf//\x7bid\x7d/" =
        .ok ⟨[.literal "shelf", .parameter "id"], false⟩ := rfl
    have condition : condition? (some "true") = .ok (some ("true", .constant true)) := by
      rw [condition?, parse_true]
    rw [routes_build]
    simp [offered, searched, registered, Offer.call, Call.added?, route?, method, template,
      condition]
  obtain ⟨route, member⟩ := List.exists_mem_of_ne_nil _ listed
  have defines : Defines (m := Id) (.define "ds" " env:A:B c ") "ds" (.prefixed "env" "A:B c") := by
    have same : Text.trim "ds" = "ds" := rfl
    have read : Specifier.parse " env:A:B c " = .ok (.prefixed "env" "A:B c") := rfl
    have sound : IsAliasName (Text.trim "ds") := by simp [same, IsAliasName]
    have defines : Defines (m := Id) (.define "ds" " env:A:B c ") (Text.trim "ds") _ :=
      .define sound read
    rwa [same] at defines
  have found := (built.defined "ds" _).mpr
    ⟨[.define " ds " "db:main", searched, .define "d:s" "db"], _, [], rfl, defines, by simp⟩
  exact ⟨⟨route, member, stored route member⟩,
    named _ _ ((Dictionary.mem_iff_lookup_of_ordered built.ordered).mpr found)⟩

end Routes

end Switchboard
