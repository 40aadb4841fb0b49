import SqlExpr.Query.Scope
import SqlExpr.Render.Basic

/-!
# The shared configuration

One configuration can be shared by everything that is rendered.  It is settled
once: by the first installation, or by the first use, which settles it as the
Postgres configuration.  It is asked to be settled as a given one, to be shown,
to render a node, or to be the configuration of a new scope; all but the first
of these are uses of it.
-/

namespace SqlExpr

open SqlExpr.Calendar

/-- The shared configuration, once it is settled. -/
structure SharedConfig where
  settled? : Option Config := none

namespace SharedConfig

/-- Settle the shared configuration, unless it is settled already. -/
def install (shared : SharedConfig) (config : Config) :
    ExprResult SharedConfig :=
  match shared.settled? with
  | some _ => .error .alreadyInstalled
  | none => .ok ⟨some config⟩

/-- The shared configuration. -/
def current (shared : SharedConfig) : Config :=
  shared.settled?.getD .postgres

/-- The state after a use of the shared configuration. -/
def settle (shared : SharedConfig) : SharedConfig := ⟨some shared.current⟩

/-! ## Requests -/

/-- What is asked of the shared configuration. -/
inductive Request where
  | install (config : Config)
  | current
  | render (node : Node)
  /-- A scope for a table, at the time of the request. -/
  | scope (table : Table) (now : Timestamp)

/-- What is answered to a request. -/
inductive Answer where
  /-- The configuration that was installed, or why it was not. -/
  | installed (outcome : ExprResult Config)
  | current (config : Config)
  | text (outcome : ExprResult String)
  | scope (scope : Scope)

/-- The answer to a request, and the state that it leaves behind. -/
def serve (shared : SharedConfig) : Request → Answer × SharedConfig
  | .install config =>
    match shared.install config with
    | .ok settled => (.installed (.ok settled.current), settled)
    | .error error => (.installed (.error error), shared)
  | .current => (.current shared.current, shared.settle)
  | .render node => (.text (shared.current.render node), shared.settle)
  | .scope table now =>
    (.scope { table, config := shared.current, quoting? := none, now },
      shared.settle)

end SharedConfig

end SqlExpr
