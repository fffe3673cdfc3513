import Registrar.Mail.Drain
import Registrar.Settings.Basic
/-!
# What settings ask for

The import and the drains that settings describe, over any warehouse.
-/
namespace Registrar.Settings

variable {ω τ μ : Type}

/-- What the stages of an import read, and how they write. -/
def sources (settings : Settings) (legacy : Legacy.Store) (secret : Nat → String) :
    Import.Sources :=
  ⟨legacy, settings.imports.batchSize, secret⟩

/-- The stages of the import, in the order in which they are done (`Orchestrator::with_stores`). -/
def stages (settings : Settings) (legacy : Legacy.Store) (secret : Nat → String) :
    List Import.Stage :=
  settings.selectedStages.map fun kind => kind.stage (settings.sources legacy secret)

/-- Drains the queues (`Orchestrator::drain`). -/
def drain (settings : Settings) (warehouse : Warehouse ω τ) (mailer : Mail.Mailer μ) (w : ω)
    (m : μ) : Except Failure (List Mail.DrainReport) × ω × μ :=
  match Mail.Templates.builtIn with
  | .error cause => (.error cause, w, m)
  | .ok templates =>
    Mail.drainAll warehouse mailer templates settings.drains.courseUrlBase settings.drains.queues
      w m

end Registrar.Settings
