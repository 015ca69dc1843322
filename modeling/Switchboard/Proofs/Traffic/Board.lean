import Switchboard.Deployment.Host
import Switchboard.Proofs.Dispatch

/-!
Boards. A routing table hides how an entry handles an exchange; a board tells which compiled handler
was selected and for which exchange, so that the values can be resolved one at a time. A board is a
table of handlers that only select, and the table it stands for is the one that the host compiles.
-/

namespace Switchboard

variable {m : Type → Type}

/-- A compiled handler that was selected and the exchange it will be given. -/
structure Selection (m : Type → Type) where
  handler : CompiledHandler m
  received : Exchange

def Selection.run (selection : Selection m) : m Handled :=
  selection.handler.handle selection.received

abbrev Board (m : Type → Type) := Table fun _ => Selection m

namespace CompiledHandler

def plain (handler : Handler m) : CompiledHandler m := ⟨[], fun exchange _ => handler exchange⟩

def selected (compiled : CompiledHandler m) : Handler fun _ => Selection m :=
  fun received => ⟨compiled, received⟩

end CompiledHandler

namespace Board

def table (board : Board m) : Table m :=
  board.mapHandlers fun handler exchange => (handler exchange).run

def ofTable (table : Table m) : Board m :=
  table.mapHandlers fun handler => (CompiledHandler.plain handler).selected

theorem table_ofTable (table : Table m) : (ofTable table).table = table := by
  obtain ⟨entries, fallback⟩ := table
  have same : (entries.map (Entry.mapHandler fun handler : Handler m =>
      (CompiledHandler.plain handler).selected)).map
        (Entry.mapHandler fun handler exchange => (handler exchange).run) = entries := by
    rw [List.map_map]
    exact List.map_id entries
  rw [Board.table, ofTable, Table.mapHandlers, Table.mapHandlers, same]
  rfl

theorem handle_table (board : Board m) (exchange : Exchange) :
    board.table.handle exchange = (board.handle exchange).run := by
  rw [Table.handle_eq, table, Table.chosen_mapHandlers, Table.handle_eq board]

theorem table_insert (board : Board m) (entry : Entry fun _ => Selection m) :
    Board.table (board.insert entry) =
      board.table.insert (entry.mapHandler fun handler exchange => (handler exchange).run) := by
  rw [table, Table.mapHandlers, Table.insert, List.map_append]
  rfl

end Board

namespace Routes

variable {registry : Registry} {aliases : Dictionary Specifier}

def addSelecting (registry : Registry) (aliases : Dictionary Specifier) (board : Board m)
    (route : Route m) : Logged DeployError (Board m) := do
  let compiled ← route.registration.compile registry aliases
  let condition := route.condition.map fun (_, predicate) => predicate.condition
  let add := Table.add route.method route.template.text condition compiled.selected
  Logged.lift ((add.result board).mapError .invalidTemplate)

def board (routes : Routes m) (registry : Registry) (fallback : Handler m) :
    Logged DeployError (Board m) :=
  routes.routes.foldlM (addSelecting registry routes.aliases)
    (Board.ofTable (.withFallback fallback))

theorem lift_add (board : Board m) (method : Method) (text : String)
    (condition : Option Condition) (compiled : CompiledHandler m) :
    Logged.lift (((Table.add method text condition compiled.handle).result board.table).mapError
        DeployError.invalidTemplate) =
      Board.table <$> Logged.lift
        (((Table.add method text condition compiled.selected).result board).mapError
          .invalidTemplate) := by
  simp only [Table.add, Change.result]
  cases Template.parse text with
  | error error => rfl
  | ok template =>
      refine Logged.ext rfl (congrArg Except.ok ?_)
      exact (board.table_insert { method, template, condition, handler := compiled.selected }).symm

theorem addRoute_table (board : Board m) (route : Route m) :
    addRoute registry aliases board.table route =
      Board.table <$> addSelecting registry aliases board route := by
  rw [addRoute, addSelecting, map_bind]
  congr 1
  funext compiled
  exact lift_add board _ _ _ compiled

theorem foldlM_addRoute_table (board : Board m) (routes : List (Route m)) :
    routes.foldlM (addRoute registry aliases) board.table =
      Board.table <$> routes.foldlM (addSelecting registry aliases) board := by
  induction routes generalizing board with
  | nil => rfl
  | cons route routes ih =>
      rw [List.foldlM_cons, List.foldlM_cons, addRoute_table, bind_map_left, map_bind]
      congr 1
      funext longer
      exact ih longer

theorem compile_eq_board (routes : Routes m) (registry : Registry) (fallback : Handler m) :
    routes.compile registry fallback = Board.table <$> routes.board registry fallback := by
  rw [compile, board, ← foldlM_addRoute_table, Board.table_ofTable]

end Routes

namespace Host

def board (host : Host m) (settings : Settings) : Logged Failure (Board m) := do
  let routes ← Logged.lift (host.declare settings)
  (routes.board host.registry host.fallback).mapError .rejected

theorem compile_eq_board (host : Host m) (settings : Settings) :
    host.compile settings = Board.table <$> host.board settings := by
  rw [compile, board, map_bind]
  congr 1
  funext routes
  rw [routes.compile_eq_board, Logged.mapError_map]

theorem compile_eq_ok_of_board {host : Host m} {settings : Settings} {board : Board m}
    (worked : (host.board settings).result = .ok board) :
    (host.compile settings).result = .ok board.table := by
  rw [compile_eq_board, Logged.map_eq_ok_iff]
  exact ⟨board, worked, rfl⟩

theorem compile_eq_error_of_board {host : Host m} {settings : Settings} {failure : Failure}
    (failed : (host.board settings).result = .error failure) :
    (host.compile settings).result = .error failure := by
  rw [compile_eq_board, Logged.map_eq_error_iff]
  exact failed

theorem redeploy_of_ok {host : Host m} {settings : Settings} {table : Table m}
    (compiled : (host.compile settings).result = .ok table) :
    (host.redeploy settings).host.table = table ∧ (host.redeploy settings).result = .ok () := by
  rw [redeploy, compiled]
  exact ⟨rfl, rfl⟩

theorem redeploy_of_error {host : Host m} {settings : Settings} {failure : Failure}
    (failed : (host.compile settings).result = .error failure) :
    (host.redeploy settings).host.table = host.table ∧
      (host.redeploy settings).result = .error failure := by
  rw [redeploy, failed]
  cases failure <;> exact ⟨rfl, rfl⟩

end Host

end Switchboard
