import SqlExpr.Config.Shared

/-!
# The shared configuration is settled once

A run serves requests one after the other, each in the state that the one
before it has left.  In a settled state nothing changes any more: installations
are refused, and every use is answered from the same configuration.  So the
first request of a run decides about all others.
-/

namespace SqlExpr.SharedConfig

/-- A request that was served, with its answer and the states around it. -/
structure Exchange where
  request : Request
  answer : Answer
  before : SharedConfig
  after : SharedConfig

def exchange (shared : SharedConfig) (request : Request) : Exchange where
  request := request
  answer := (shared.serve request).1
  before := shared
  after := (shared.serve request).2

def run (shared : SharedConfig) : List Request → List Exchange
  | [] => []
  | request :: requests =>
    shared.exchange request :: (shared.exchange request).after.run requests

/-- What a use is answered from a configuration.  To install one is no use. -/
def Request.use? (config : Config) : Request → Option Answer
  | install _ => none
  | current => some (.current config)
  | render node => some (.text (config.render node))
  | scope table now =>
    some (.scope { table, config, quoting? := none, now })

namespace Request

def IsInstallation (request : Request) : Prop :=
  ∃ config, request = .install config

/-- What a request settles the shared configuration as, if it is the first. -/
def settles : Request → Config
  | install config => config
  | _ => .postgres

theorem use?_eq_none {request : Request} {config : Config}
    (installation : request.IsInstallation) : request.use? config = none := by
  obtain ⟨own, rfl⟩ := installation
  rfl

end Request

namespace Exchange

/-- The configuration is installed, and so it is from then on. -/
def Installs (exchange : Exchange) (config : Config) : Prop :=
  exchange.request = .install config ∧
    exchange.answer = .installed (.ok config) ∧
    exchange.after = ⟨some config⟩

/-- An installation fails, and everything stays as it was. -/
def IsRefused (exchange : Exchange) : Prop :=
  exchange.request.IsInstallation ∧
    exchange.answer = .installed (.error .alreadyInstalled) ∧
    exchange.after = exchange.before

/-- The answer is the one that the configuration gives. -/
def Uses (exchange : Exchange) (config : Config) : Prop :=
  exchange.request.use? config = some exchange.answer

theorem Uses.not_isInstallation {exchange : Exchange} {config : Config}
    (uses : exchange.Uses config) : ¬ exchange.request.IsInstallation := by
  intro installation
  have none : exchange.request.use? config = none :=
    Request.use?_eq_none installation
  have answered : exchange.request.use? config = some exchange.answer := uses
  rw [none] at answered
  cases answered

theorem IsRefused.not_installs {exchange : Exchange} {config : Config}
    (refused : exchange.IsRefused) : ¬ exchange.Installs config := by
  rintro ⟨-, installed, -⟩
  obtain ⟨-, failed, -⟩ := refused
  rw [failed] at installed
  cases installed

end Exchange

variable {config : Config} {request : Request} {requests : List Request}
  {entry : Exchange}

/-! ## Single requests -/

/-- In a settled state a request changes nothing, and is refused or answered
from the configuration that was settled. -/
theorem exchange_of_settled (config : Config) (request : Request) :
    (exchange ⟨some config⟩ request).after = ⟨some config⟩ ∧
      ((exchange ⟨some config⟩ request).IsRefused ∨
        (exchange ⟨some config⟩ request).Uses config) := by
  cases request with
  | install own => exact ⟨rfl, .inl ⟨⟨own, rfl⟩, rfl, rfl⟩⟩
  | current | render | scope => exact ⟨rfl, .inr rfl⟩

/-- The first request is an installation that succeeds, or a use that settles
the configuration as the Postgres one. -/
theorem exchange_of_unsettled (request : Request) :
    (exchange {} request).after = ⟨some request.settles⟩ ∧
      ((exchange {} request).Installs request.settles ∨
        (exchange {} request).Uses .postgres ∧
          request.settles = .postgres) := by
  cases request with
  | install own => exact ⟨rfl, .inl ⟨rfl, rfl, rfl⟩⟩
  | current | render | scope => exact ⟨rfl, .inr ⟨rfl, rfl⟩⟩

/-! ## Runs -/

/-- A run in a settled state refuses every installation, and answers every use
from the configuration that was settled. -/
theorem run_of_settled (member : entry ∈ run ⟨some config⟩ requests) :
    entry.IsRefused ∨ entry.Uses config := by
  induction requests with
  | nil => cases member
  | cons request requests induction =>
      obtain ⟨unchanged, outcome⟩ := exchange_of_settled config request
      rw [run, unchanged] at member
      rcases List.mem_cons.mp member with rfl | later
      · exact outcome
      · exact induction later

theorem run_of_unsettled (request : Request) (requests : List Request) :
    run {} (request :: requests) =
      exchange {} request :: run ⟨some request.settles⟩ requests := by
  rw [run, (exchange_of_unsettled request).1]

/-- Behind the first request of a run no installation succeeds. -/
theorem isRefused_of_run {before after : List Exchange}
    (row : run {} requests = before ++ entry :: after)
    (installation : entry.request.IsInstallation) (later : before ≠ []) :
    entry.IsRefused := by
  cases requests with
  | nil => simp [run] at row
  | cons request requests =>
      rw [run_of_unsettled] at row
      cases before with
      | nil => exact absurd rfl later
      | cons first before =>
          obtain ⟨-, rest⟩ := List.cons.inj row
          have member : entry ∈ run ⟨some request.settles⟩ requests := by
            rw [rest]
            exact List.mem_append_right before List.mem_cons_self
          rcases run_of_settled member with refused | uses
          · exact refused
          · exact absurd installation uses.not_isInstallation

/-- An installation that comes first succeeds. -/
theorem installs_of_run {after : List Exchange}
    (row : run {} requests = entry :: after)
    (installation : entry.request.IsInstallation) :
    ∃ config, entry.Installs config := by
  cases requests with
  | nil => cases row
  | cons request requests =>
      obtain ⟨rfl, -⟩ := List.cons.inj row
      rcases (exchange_of_unsettled request).2 with installs | ⟨uses, -⟩
      · exact ⟨_, installs⟩
      · exact absurd installation uses.not_isInstallation

/-- The first request says from which configuration uses are answered. -/
theorem uses_of_run (member : entry ∈ run {} (request :: requests))
    (use : ¬ entry.request.IsInstallation) : entry.Uses request.settles := by
  rw [run_of_unsettled] at member
  rcases List.mem_cons.mp member with rfl | later
  · rcases (exchange_of_unsettled request).2 with installs | ⟨uses, settles⟩
    · exact absurd ⟨_, installs.1⟩ use
    · rw [settles]
      exact uses
  · rcases run_of_settled later with refused | uses
    · exact absurd refused.1 use
    · exact uses

theorem settles_of_installs (member : entry ∈ run {} (request :: requests))
    (installs : entry.Installs config) : request.settles = config := by
  rw [run_of_unsettled] at member
  rcases List.mem_cons.mp member with rfl | later
  · have install : request = .install config := installs.1
    rw [install]
    rfl
  · rcases run_of_settled later with refused | uses
    · exact absurd installs refused.not_installs
    · exact absurd ⟨config, installs.1⟩ uses.not_isInstallation

theorem settles_of_not_installs
    (none : ∀ entry ∈ run {} (request :: requests), ∀ config,
      ¬ entry.Installs config) :
    request.settles = .postgres := by
  rw [run_of_unsettled] at none
  obtain ⟨first, -⟩ := List.forall_mem_cons.mp none
  rcases (exchange_of_unsettled request).2 with installs | ⟨-, settles⟩
  · exact absurd installs (first _)
  · exact settles

/-- In a run from the beginning an installation succeeds exactly if it is the
first request of all; any other one is refused and changes nothing.  All uses
in the run are answered from one configuration: from the one that was
installed, if one was, and otherwise from the Postgres one. -/
theorem run_settles_once (requests : List Request) :
    (∀ before entry after, run {} requests = before ++ entry :: after →
      entry.request.IsInstallation →
        if before = [] then ∃ config, entry.Installs config
        else entry.IsRefused) ∧
    ∃ config,
      (∀ entry ∈ run {} requests,
        ¬ entry.request.IsInstallation → entry.Uses config) ∧
      (∀ entry ∈ run {} requests, ∀ own,
        entry.Installs own → config = own) ∧
      ((∀ entry ∈ run {} requests, ∀ own, ¬ entry.Installs own) →
        config = .postgres) := by
  constructor
  · intro before entry after row installation
    split
    next first =>
      subst first
      exact installs_of_run row installation
    next later => exact isRefused_of_run row installation later
  · cases requests with
    | nil => exact ⟨.postgres, by simp [run]⟩
    | cons request requests =>
        refine ⟨request.settles, ?_, ?_, settles_of_not_installs⟩
        · intro entry member use
          exact uses_of_run member use
        · intro entry member own installs
          exact settles_of_installs member installs

example : (run {} [.current, .install { Config.postgres with
      booleanStyle := .numeric }]).map Exchange.answer =
    [.current .postgres, .installed (.error .alreadyInstalled)] := rfl

end SqlExpr.SharedConfig
