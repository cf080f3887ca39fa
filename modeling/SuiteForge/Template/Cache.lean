/-
# The template cache

Templates are compiled on first use. What has been stored under a name is never
replaced: a compilation that ends later than another one of the same name gives
way to it. A compilation may yield nothing; that is stored too, but is compiled
again on the next use.
-/

import SuiteForge.Assoc
import SuiteForge.Text

namespace SuiteForge

/-- Compiled templates by their names. -/
structure TemplateCache (α : Type) where
  entries : Assoc Text (Option α)

namespace TemplateCache

variable {α : Type}

def empty : TemplateCache α := ⟨[]⟩

/-- The template stored under a name. -/
def find? (c : TemplateCache α) (name : Text) : Option α := (c.entries.lookup name).join

/-- Something is stored under a name. -/
def contains (c : TemplateCache α) (name : Text) : Bool := (c.entries.lookup name).isSome

/-- How many names have something stored. -/
def size (c : TemplateCache α) : Nat := c.entries.length

/-- Stores what a compilation gave, unless the name is taken; yields what is stored then. -/
def store (name : Text) (compiled : Option α) (c : TemplateCache α) :
    Option α × TemplateCache α :=
  match c.entries.lookup name with
  | some kept => (kept, c)
  | none => (compiled, ⟨c.entries ++ [(name, compiled)]⟩)

/-- The template of a name: the stored one, or else what `compile` gives, which may use the cache
itself. -/
def getOrCompile {m : Type → Type} [Monad m] [MonadStateOf (TemplateCache α) m]
    (compile : Text → m (Option α)) (name : Text) : m (Option α) := do
  let cache : TemplateCache α ← getThe (TemplateCache α)
  match cache.find? name with
  | some t => pure (some t)
  | none => do
    let compiled ← compile name
    modifyGetThe (TemplateCache α) (store name compiled)

end TemplateCache

end SuiteForge
