/-
# Roles, call forms and naming conventions

Callables are registered with a worker and invoked through a client or through the workflow
module. The forms of those calls are fixed; the names of the types and modules involved may
differ between versions of the framework and are collected in `Conventions`.
-/

namespace BindingAudit

/-! ## Roles -/

/-- The role a callable is registered under. -/
inductive Role where
  /-- Orchestration code, started through a client or by another workflow. -/
  | workflow
  /-- A unit of work, scheduled by a workflow. -/
  | activity
  deriving DecidableEq, Repr, Inhabited

/-- The name of a role. -/
def Role.name : Role → String
  | .workflow => "workflow"
  | .activity => "activity"

/-! ## Registration -/

/-- The calls that register a callable with a worker. -/
inductive RegistrationForm where
  | workflow
  | workflowWithOptions
  | activity
  | activityWithOptions
  deriving DecidableEq, Repr

namespace RegistrationForm

/-- All registration forms. -/
def all : List RegistrationForm := [workflow, workflowWithOptions, activity, activityWithOptions]

/-- The name of the worker's method. -/
def selector : RegistrationForm → String
  | workflow => "RegisterWorkflow"
  | workflowWithOptions => "RegisterWorkflowWithOptions"
  | activity => "RegisterActivity"
  | activityWithOptions => "RegisterActivityWithOptions"

/-- The role the form registers under. -/
def role : RegistrationForm → Role
  | workflow | workflowWithOptions => .workflow
  | activity | activityWithOptions => .activity

/-- Whether the second argument is an options value. -/
def hasOptions : RegistrationForm → Bool
  | workflowWithOptions | activityWithOptions => true
  | workflow | activity => false

/-- The form whose method has a given name. -/
def ofSelector? (name : String) : Option RegistrationForm :=
  all.find? (·.selector == name)

end RegistrationForm

/-! ## Invocation -/

/-- What an invocation is called on. -/
inductive Receiver where
  | client
  | workflowModule
  deriving DecidableEq, Repr

/-- The calls that invoke a registered callable. -/
inductive InvocationForm where
  /-- `client.ExecuteWorkflow(ctx, options, callee, args...)` -/
  | executeWorkflow
  /-- `workflow.ExecuteActivity(ctx, callee, args...)` -/
  | executeActivity
  /-- `workflow.ExecuteLocalActivity(ctx, callee, args...)` -/
  | executeLocalActivity
  /-- `workflow.ExecuteChildWorkflow(ctx, callee, args...)` -/
  | executeChildWorkflow
  deriving DecidableEq, Repr

namespace InvocationForm

/-- All invocation forms. -/
def all : List InvocationForm :=
  [executeWorkflow, executeActivity, executeLocalActivity, executeChildWorkflow]

/-- The name of the invoking function. -/
def selector : InvocationForm → String
  | executeWorkflow => "ExecuteWorkflow"
  | executeActivity => "ExecuteActivity"
  | executeLocalActivity => "ExecuteLocalActivity"
  | executeChildWorkflow => "ExecuteChildWorkflow"

/-- The role of the callables that the form invokes. -/
def role : InvocationForm → Role
  | executeWorkflow | executeChildWorkflow => .workflow
  | executeActivity | executeLocalActivity => .activity

/-- What the form is called on. -/
def receiver : InvocationForm → Receiver
  | executeWorkflow => .client
  | executeActivity | executeLocalActivity | executeChildWorkflow => .workflowModule

/-- The index of the callee among the arguments. A client is given a context and start options
before it, the workflow module a context only. -/
def calleeIndex (f : InvocationForm) : Nat :=
  match f.receiver with
  | .client => 2
  | .workflowModule => 1

/-- The index of the first argument that is handed on to the callee. -/
def firstArgIndex (f : InvocationForm) : Nat := f.calleeIndex + 1

/-- The fewest arguments a call can have. -/
def minArgs (f : InvocationForm) : Nat := f.calleeIndex + 1

/-- The form whose function has a given name. -/
def ofSelector? (name : String) : Option InvocationForm :=
  all.find? (·.selector == name)

end InvocationForm

/-! ## Conventions -/

/-- The names that identify workers, clients, options and types that encode themselves. Names of
types are qualified by their module. -/
structure Conventions where
  /-- The type registrations are called on. -/
  workerType : String
  /-- The type workflows are started through. -/
  clientType : String
  /-- The module whose functions schedule activities and child workflows. -/
  workflowModule : String
  workflowOptionsType : String
  activityOptionsType : String
  /-- The options field that holds the name to register under. -/
  nameField : String
  /-- The methods that make a type encode itself. -/
  codecMethods : List String
  /-- The methods that mark a type as a protocol message. -/
  messageMarkers : List String
  /-- The key consulted in field tags. -/
  skipTagKey : String
  /-- The tag value that drops a field from the encoding. -/
  skipTagValue : String
  deriving DecidableEq, Repr

namespace Conventions

/-- The names of the Temporal SDK. -/
def temporal : Conventions where
  workerType := "go.temporal.io/sdk/worker.Worker"
  clientType := "go.temporal.io/sdk/client.Client"
  workflowModule := "go.temporal.io/sdk/workflow"
  workflowOptionsType := "go.temporal.io/sdk/workflow.RegisterOptions"
  activityOptionsType := "go.temporal.io/sdk/activity.RegisterOptions"
  nameField := "Name"
  codecMethods := ["MarshalJSON"]
  messageMarkers := ["ProtoReflect"]
  skipTagKey := "json"
  skipTagValue := "-"

instance : Inhabited Conventions := ⟨temporal⟩

/-- The options type a registration form accepts. -/
def expectedOptions? (c : Conventions) : RegistrationForm → Option String
  | .workflowWithOptions => some c.workflowOptionsType
  | .activityWithOptions => some c.activityOptionsType
  | .workflow | .activity => none

/-- Whether a method of this name makes its type encode itself. -/
def encodesItself (c : Conventions) (name : String) : Bool :=
  c.codecMethods.contains name || c.messageMarkers.contains name

end Conventions

end BindingAudit
