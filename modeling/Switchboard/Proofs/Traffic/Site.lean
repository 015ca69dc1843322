import Switchboard.Proofs.Traffic.Board

/-!
A host in service. Handlers may redeploy it on the way and go on with what came of it. A
redeployment that compiles stores its table after all those stored before, and one that fails stores
nothing.
-/

namespace Switchboard

/-- What a handler does that may redeploy and then goes on with what came of it. -/
inductive Work (α : Type) where
  | finished (value : α)
  | redeploy (settings : Settings) (next : Except Failure Unit → Work α)

namespace Work

variable {α β : Type}

def bind (work : Work α) (next : α → Work β) : Work β :=
  match work with
  | .finished value => next value
  | .redeploy settings later => .redeploy settings fun result => (later result).bind next

instance : Monad Work where
  pure := finished
  bind := bind

def resume? : List (Except Failure Unit) → Work α → Option (Work α)
  | [], work => some work
  | _ :: _, .finished _ => none
  | result :: results, .redeploy _ next => (next result).resume? results

theorem resume?_concat {work : Work α} {results : List (Except Failure Unit)} {settings : Settings}
    {next : Except Failure Unit → Work α}
    (resumed : work.resume? results = some (.redeploy settings next))
    (result : Except Failure Unit) :
    work.resume? (results ++ [result]) = some (next result) := by
  induction results generalizing work with
  | nil =>
      obtain rfl := Option.some.inj resumed
      rfl
  | cons first results ih =>
      cases work with
      | finished value => cases resumed
      | redeploy other later => exact ih resumed

end Work

/-- A host in service, with the board of its live table and the tables that were live before. -/
structure Site where
  host : Host Work
  board : Board Work
  replaced : List (Table Work)
  agrees : board.table = host.table

namespace Site

def start (host : Host Work) : Site where
  host := host
  board := .ofTable host.table
  replaced := []
  agrees := Board.table_ofTable host.table

def stored (site : Site) : List (Table Work) := site.replaced ++ [site.host.table]

/-- Redeploy at one moment, that of the store: what is compiled before does not depend on anything
that other redeployments change. -/
def redeploy (site : Site) (settings : Settings) : Site × Except Failure Unit :=
  let redeployed := site.host.redeploy settings
  match made : (site.host.board settings).result with
  | .ok board =>
    have compiled := Host.compile_eq_ok_of_board made
    ({ host := redeployed.host
       board
       replaced := site.stored
       agrees := (Host.redeploy_of_ok compiled).1.symm }, redeployed.result)
  | .error _ =>
    have failed := Host.compile_eq_error_of_board made
    ({ site with
       host := redeployed.host
       agrees := site.agrees.trans (Host.redeploy_of_error failed).1.symm }, redeployed.result)

def redeployAll (site : Site) (wanted : List Settings) : Site :=
  wanted.foldl (fun site settings => (site.redeploy settings).1) site

/-- From now on the plan declares other routes, as one may that looks at more than the settings. -/
def replan (site : Site) (plan : Plan Work) : Site := { site with host := { site.host with plan } }

theorem redeploy_cases (site : Site) (settings : Settings) :
    (∃ table, (site.host.compile settings).result = .ok table ∧
      (site.redeploy settings).2 = .ok () ∧
      (site.redeploy settings).1.host.table = table ∧
      (site.redeploy settings).1.stored = site.stored ++ [table]) ∨
    ∃ failure, (site.host.compile settings).result = .error failure ∧
      (site.redeploy settings).2 = .error failure ∧
      (site.redeploy settings).1.host.table = site.host.table ∧
      (site.redeploy settings).1.stored = site.stored := by
  unfold redeploy
  split
  next board made =>
    have compiled := Host.compile_eq_ok_of_board made
    obtain ⟨table, result⟩ := Host.redeploy_of_ok compiled
    refine .inl ⟨board.table, compiled, result, table, ?_⟩
    simp only [stored, table]
  next failure made =>
    have failed := Host.compile_eq_error_of_board made
    obtain ⟨table, result⟩ := Host.redeploy_of_error failed
    refine .inr ⟨failure, failed, result, table, ?_⟩
    simp only [stored, table]

theorem stored_redeploy (site : Site) (settings : Settings) :
    site.stored <+: (site.redeploy settings).1.stored := by
  rcases site.redeploy_cases settings with ⟨table, -, -, -, grown⟩ | ⟨failure, -, -, -, kept⟩
  · exact ⟨[table], grown.symm⟩
  · exact ⟨[], by rw [kept, List.append_nil]⟩

theorem stored_redeployAll (site : Site) (wanted : List Settings) :
    site.stored <+: (site.redeployAll wanted).stored := by
  induction wanted generalizing site with
  | nil => exact List.prefix_refl _
  | cons settings wanted ih => exact (site.stored_redeploy settings).trans (ih _)

theorem table_mem_of_stored {older site : Site} {newer : List (Table Work)}
    (grown : site.stored = older.stored ++ newer) :
    site.host.table ∈ older.host.table :: newer := by
  have last : (older.replaced ++ older.host.table :: newer).getLast? = some site.host.table := by
    rw [List.append_cons, ← stored, ← grown]
    exact List.getLast?_concat
  rw [List.getLast?_append, List.getLast?_cons, Option.some_or, ← List.getLast?_cons] at last
  exact List.mem_of_getLast? last

end Site

end Switchboard
