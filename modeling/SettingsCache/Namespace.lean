import SettingsCache.Text.Lowercase

/-!
# Namespaces

The settings service keeps four independent tables, one for each namespace. A namespace is known
by its table name, which is read without regard to case, and owns one slot of the generation
block, the slots following the order of the tables.
-/

namespace SettingsCache

/-- An independent table of settings, with its own remote methods and generation counter. -/
inductive Namespace where
  | system
  | secure
  | global
  | config
  deriving DecidableEq

namespace Namespace

/-- Every namespace, in table order. -/
def all : List Namespace := [.system, .secure, .global, .config]

/-- The slot of a namespace's counter in the generation block: its place in table order. -/
def slot : Namespace → Nat
  | .system => 0
  | .secure => 1
  | .global => 2
  | .config => 3

/-- Namespaces are ordered as their tables are. -/
instance : Ord Namespace := ⟨fun a b ↦ compare a.slot b.slot⟩

/-- The name of a namespace's table. -/
def tableName : Namespace → String
  | .system => "system"
  | .secure => "secure"
  | .global => "global"
  | .config => "config"

/-- The name by which a namespace is shown inside a description. -/
def label : Namespace → String
  | .system => "System"
  | .secure => "Secure"
  | .global => "Global"
  | .config => "Config"

/-- The address of the collection that fallback queries look into. -/
def contentUri (ns : Namespace) : String := "content://settings/" ++ ns.tableName

/-- The namespace of an exactly written table name. -/
def ofTableName? (name : String) : Option Namespace :=
  all.find? fun ns ↦ ns.tableName == name

/-- A text that names no namespace. -/
structure ParseError where
  input : String
  deriving DecidableEq

/-- The wording of a refused namespace text. -/
def ParseError.message (e : ParseError) : String := "Invalid settings namespace: " ++ e.input

/-- Read a namespace from its table name in any case. -/
def parse (text : String) : Except ParseError Namespace :=
  match ofTableName? (String.ofList (Text.lower text.toList)) with
  | some ns => .ok ns
  | none => .error ⟨text⟩

end Namespace

/-- One value for each namespace. -/
structure PerNamespace (α : Type) where
  system : α
  secure : α
  global : α
  config : α

namespace PerNamespace

variable {α : Type}

/-- The value of a namespace, each computed from its namespace. -/
def ofFun (f : Namespace → α) : PerNamespace α :=
  ⟨f .system, f .secure, f .global, f .config⟩

/-- The value of one namespace. -/
def get (values : PerNamespace α) : Namespace → α
  | .system => values.system
  | .secure => values.secure
  | .global => values.global
  | .config => values.config

/-- Replace the value of one namespace. -/
def set (values : PerNamespace α) (ns : Namespace) (value : α) : PerNamespace α :=
  match ns with
  | .system => { values with system := value }
  | .secure => { values with secure := value }
  | .global => { values with global := value }
  | .config => { values with config := value }

/-- Change the value of one namespace. -/
def modify (values : PerNamespace α) (ns : Namespace) (f : α → α) : PerNamespace α :=
  values.set ns (f (values.get ns))

/-- Apply a function to every value. -/
def map {β : Type} (values : PerNamespace α) (f : α → β) : PerNamespace β :=
  ofFun fun ns ↦ f (values.get ns)

@[simp] theorem get_ofFun (f : Namespace → α) (ns : Namespace) : (ofFun f).get ns = f ns := by
  cases ns <;> rfl

@[simp] theorem get_set_self (values : PerNamespace α) (ns : Namespace) (value : α) :
    (values.set ns value).get ns = value := by
  cases ns <;> rfl

theorem get_set_of_ne (values : PerNamespace α) {ns other : Namespace} (value : α)
    (h : other ≠ ns) : (values.set ns value).get other = values.get other := by
  cases ns <;> cases other <;> first | rfl | exact absurd rfl h

end PerNamespace

end SettingsCache
