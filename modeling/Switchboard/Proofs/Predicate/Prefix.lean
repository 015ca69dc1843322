import Switchboard.Predicate
import Switchboard.Proofs.Template.Canonical

/-!
Path prefixes. A path is matched piece by piece, the pieces being what stands between its slashes:
a prefix must be the first pieces, and one that ends in a slash asks for a piece after them.
-/

namespace Switchboard

section Pieces

variable {front whole : List Char}

theorem eq_of_splitOn_eq (same : front.splitOn '/' = whole.splitOn '/') : front = whole := by
  calc
    front = ['/'].intercalate (front.splitOn '/') := (List.intercalate_splitOn '/').symm
    _ = ['/'].intercalate (whole.splitOn '/') := by rw [same]
    _ = whole := List.intercalate_splitOn '/'

theorem splitOn_eq_append_cons_iff :
    (∃ piece pieces, whole.splitOn '/' = front.splitOn '/' ++ piece :: pieces) ↔
      ∃ back, whole = front ++ '/' :: back := by
  constructor
  · rintro ⟨piece, pieces, cut⟩
    have slashless : ∀ other ∈ piece :: pieces, '/' ∉ other := by
      intro other member
      have inside : other ∈ whole.splitOn '/' := by
        rw [cut]
        exact List.mem_append_right _ member
      exact separator_not_mem_splitOn inside
    -- The later pieces put together again are the text behind the cut.
    refine ⟨['/'].intercalate (piece :: pieces), ?_⟩
    apply eq_of_splitOn_eq
    rw [List.splitOn_append_cons_self, List.splitOn_intercalate _ slashless (by simp), cut]
  · rintro ⟨back, rfl⟩
    obtain ⟨piece, pieces, cut⟩ := List.exists_cons_of_ne_nil (List.splitOn_ne_nil '/' back)
    exact ⟨piece, pieces, by rw [List.splitOn_append_cons_self, cut]⟩

theorem splitOn_prefix_iff :
    front.splitOn '/' <+: whole.splitOn '/' ↔
      whole = front ∨ ∃ back, whole = front ++ '/' :: back := by
  rw [← splitOn_eq_append_cons_iff]
  constructor
  · rintro ⟨pieces, cut⟩
    cases pieces with
    | nil => exact .inl (eq_of_splitOn_eq (by rw [← cut, List.append_nil]))
    | cons piece pieces => exact .inr ⟨piece, pieces, cut.symm⟩
  · rintro (rfl | ⟨piece, pieces, cut⟩)
    · exact List.prefix_rfl
    · exact ⟨piece :: pieces, cut.symm⟩

theorem splitOn_proper_prefix_iff :
    front.splitOn '/' <+: whole.splitOn '/' ∧ front.splitOn '/' ≠ whole.splitOn '/' ↔
      ∃ back, whole = front ++ '/' :: back := by
  rw [splitOn_prefix_iff]
  constructor
  · rintro ⟨rfl | later, different⟩
    · exact absurd rfl different
    · exact later
  · rintro ⟨back, rfl⟩
    refine ⟨.inr ⟨back, rfl⟩, fun same => ?_⟩
    simpa using congrArg List.length (eq_of_splitOn_eq same)

end Pieces

namespace Predicate

theorem afterPrefix?_eq_some_iff {start text rest : List Char} :
    afterPrefix? start text = some rest ↔ text = start ++ rest := by
  induction start generalizing text with
  | nil => simp [afterPrefix?]
  | cons c start ih =>
      cases text with
      | nil => simp [afterPrefix?]
      | cons d text =>
          rw [afterPrefix?]
          split
          next same => simp [ih, same]
          next different => simp [Ne.symm different]

section Boundary

variable {path start : List Char}

theorem beginsWith_iff :
    beginsWith path start = true ↔ ∃ rest, path = start ++ rest ∧
      (rest = [] ∨ rest.head? = some '/' ∨ start.getLast? = some '/') := by
  rw [beginsWith]
  cases found : afterPrefix? start path with
  | none =>
      have apart (rest : List Char) : path ≠ start ++ rest := by
        intro whole
        rw [afterPrefix?_eq_some_iff.mpr whole] at found
        cases found
      simp [apart]
  | some rest =>
      obtain rfl := afterPrefix?_eq_some_iff.mp found
      simp [or_assoc]

theorem beginsWith_iff_of_getLast?_ne (slashless : start.getLast? ≠ some '/') :
    beginsWith path start = true ↔ path = start ∨ ∃ back, path = start ++ '/' :: back := by
  rw [beginsWith_iff]
  constructor
  · rintro ⟨rest, rfl, rfl | slash | last⟩
    · exact .inl (List.append_nil start)
    · obtain ⟨back, rfl⟩ := List.head?_eq_some_iff.mp slash
      exact .inr ⟨back, rfl⟩
    · exact absurd last slashless
  · rintro (rfl | ⟨back, rfl⟩)
    · exact ⟨[], (List.append_nil path).symm, .inl rfl⟩
    · exact ⟨'/' :: back, rfl, .inr (.inl rfl)⟩

theorem beginsWith_slash_iff :
    beginsWith path (start ++ ['/']) = true ↔ ∃ back, path = start ++ '/' :: back := by
  rw [beginsWith_iff]
  simp

end Boundary

/-- What stands between the slashes of a text, empty pieces included. -/
def slashPieces (text : String) : List (List Char) := text.toList.splitOn '/'

theorem holds_pathPrefix_iff {start : String} (slashless : start.toList.getLast? ≠ some '/')
    (exchange : Exchange) :
    (pathPrefix start).holds exchange = true ↔ slashPieces start <+: slashPieces exchange.path := by
  rw [holds, beginsWith_iff_of_getLast?_ne slashless, slashPieces, slashPieces, splitOn_prefix_iff]

theorem holds_pathPrefix_slash_iff (start : String) (exchange : Exchange) :
    (pathPrefix (start ++ "/")).holds exchange = true ↔
      slashPieces start <+: slashPieces exchange.path ∧
        slashPieces start ≠ slashPieces exchange.path := by
  rw [holds, String.toList_append, show "/".toList = ['/'] from rfl, beginsWith_slash_iff,
    slashPieces, slashPieces, splitOn_proper_prefix_iff]

/-- A path prefix matches whole pieces: its own must be the first of the path, and with a slash at
its end it asks for more. So whatever follows a prefix and a slash, the prefix matches no less. -/
theorem pathPrefix_whole_pieces (exchange : Exchange) (start : String) :
    (start.toList.getLast? ≠ some '/' →
      ((pathPrefix start).holds exchange = true ↔
        slashPieces start <+: slashPieces exchange.path)) ∧
    ((pathPrefix (start ++ "/")).holds exchange = true ↔
      slashPieces start <+: slashPieces exchange.path ∧
        slashPieces start ≠ slashPieces exchange.path) ∧
    (start.toList.getLast? ≠ some '/' → ∀ rest,
      (pathPrefix (start ++ "/" ++ rest)).holds exchange = true →
        (pathPrefix start).holds exchange = true) := by
  refine ⟨fun slashless => holds_pathPrefix_iff slashless exchange,
    holds_pathPrefix_slash_iff start exchange, ?_⟩
  intro slashless rest held
  rw [holds, beginsWith_iff] at held
  obtain ⟨back, whole, -⟩ := held
  rw [holds, beginsWith_iff_of_getLast?_ne slashless]
  refine .inr ⟨rest.toList ++ back, ?_⟩
  simpa using whole

def versioned : Exchange := .ofRequest ⟨.get, ⟨none, none, "/api//v1", none⟩, .empty, []⟩

theorem pathPrefix_whole_pieces_versioned :
    "/api".toList.getLast? ≠ some '/' ∧ (pathPrefix "/api//").holds versioned = true ∧
    (pathPrefix "/api").holds versioned = true ∧ ¬ (pathPrefix "/ap").holds versioned = true ∧
    ¬ (pathPrefix "/api//v1/").holds versioned = true := by
  have slashless : "/api".toList.getLast? ≠ some '/' := by decide
  have unslashed : "/ap".toList.getLast? ≠ some '/' := by decide
  obtain ⟨-, doubled, -⟩ := pathPrefix_whole_pieces versioned "/api/"
  obtain ⟨-, -, weaker⟩ := pathPrefix_whole_pieces versioned "/api"
  obtain ⟨half, -, -⟩ := pathPrefix_whole_pieces versioned "/ap"
  obtain ⟨-, whole, -⟩ := pathPrefix_whole_pieces versioned "/api//v1"
  have held : (pathPrefix "/api//").holds versioned = true := doubled.mpr (by decide)
  refine ⟨slashless, held, weaker slashless "/" held, ?_, ?_⟩
  · intro matched
    exact absurd ((half unslashed).mp matched) (by decide)
  · intro matched
    exact absurd (whole.mp matched) (by decide)

end Predicate

end Switchboard
