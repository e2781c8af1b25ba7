import Registrar.Proofs.Import.Run
import Registrar.Proofs.Import.Table

/-!
Clean imports never make a double registration: whatever batches are imported, each with settings of
its own but all under one selection, and whatever rows are withdrawn between them, a registry that
was sound stays sound (`sound_of_reachable`).
-/

namespace Registrar.Import

variable {σ : Type} {db : Database (StateM σ)} {contents : σ → Contents} {country : String}
  {wellFormed : String → Prop} {s : Selection} {start st : σ}

/-- What imports into one country under one selection and withdrawals can lead to. Imports do not
allow duplicates; they may fail anywhere. -/
inductive Reachable (db : Database (StateM σ)) (contents : σ → Contents) (s : Selection)
    (country : String) (start : σ) : σ → Prop
  | start : Reachable db contents s country start start
  | imported {st : σ} (before : Reachable db contents s country start st) (host : Host (StateM σ))
      (env : Environment) (catalog : Catalog) (settings : Settings) (request : Request)
      (hdb : host.database = db) (hhost : Beside host contents)
      (hselect : (settings.select catalog request.groups request.connective).value = .ok s)
      (hcountry : request.country = country) :
      Reachable db contents s country start
        ((Command.runInsert host env catalog settings request false).run.run st).2
  | withdrawn {st st' : σ} (before : Reachable db contents s country start st)
      (h : Withdrawn (contents st).committed (contents st').committed) :
      Reachable db contents s country start st'

theorem sound_import {host : Host (StateM σ)} {env : Environment} {catalog : Catalog}
    {settings : Settings} {request : Request}
    (hdb : Faithful host.database contents country wellFormed) (hhost : Beside host contents)
    (hunpad : Text.unpad country = country)
    (hselect : (settings.select catalog request.groups request.connective).value = .ok s)
    (hcountry : request.country = country) (hsound : Sound s country (contents st).committed) :
    Sound s country (contents
      ((Command.runInsert host env catalog settings request false).run.run st).2).committed := by
  have hattempts : Attempts _ (Command.runInsert host env catalog settings request false) _ _ :=
    attempts_runInsert hdb hhost hunpad hselect hcountry hsound
  exact hattempts.state_run rfl

/-- **Clean imports never make a double registration.** In everything that imports and withdrawals
can lead to from sound rows, the rows are sound: no two live rows of the country are duplicates. -/
theorem sound_of_reachable (hdb : Faithful db contents country wellFormed)
    (hunpad : Text.unpad country = country) (hstart : Sound s country (contents start).committed)
    (h : Reachable db contents s country start st) : Sound s country (contents st).committed := by
  induction h with
  | start => exact hstart
  | imported before host env catalog settings request hhostdb hhost hselect hcountry ih =>
    subst hhostdb
    exact sound_import hdb hhost hunpad hselect hcountry ih
  | withdrawn before h ih => exact ih.withdraw h

/-! ### Two imports -/

def addresses : Catalog where
  groups := [⟨"Emails", "E-Mails", [.email 0, .email 1, .email 2], .any, 2, true⟩]
  ordered := List.pairwise_singleton _ _

def sameAddresses : Selection := ⟨addresses.groups, .all⟩

def home : String := "c0000000-0000-4000-8000-000000000001"

def fewValues : Settings := ⟨21, .all, ["Emails"]⟩

/-- What an import of the batch in a text leaves behind. -/
def leftBy (text : String) (st : Table.State) : Table.State :=
  ((Command.runInsert (Table.host text) [] addresses fewValues ⟨home, "batch.json", none, none⟩
    false).run.run st).2

theorem reachable_leftBy {start st : Table.State} (text : String)
    (before : Reachable Table.database Table.State.contents sameAddresses home start st) :
    Reachable Table.database Table.State.contents sameAddresses home start (leftBy text st) := by
  have hselect : (fewValues.select addresses none none).value = .ok sameAddresses := by
    decide +kernel
  have himport := before.imported (Table.host text) [] addresses fewValues
    ⟨home, "batch.json", none, none⟩ rfl (Table.beside text) hselect rfl
  exact himport

def nobody : Table.State := ⟨⟨[], []⟩, 0⟩

def batchOfAnn : String := "[\x7b\"id\": \" \", \"email_1\": \" Ann@example.org\"\x7d]"

def batchOfAnnAgain : String :=
  "[\x7b\"id\": \"a0000000-0000-4000-8000-00000000000b\", \"email_1\": \"ANN@example.org\"\x7d]"

def rowForAnn : Record :=
  ⟨Table.newId 0, home, .ofFn fun
    | .email 0 => "ann@example.org"
    | _ => "", none⟩

/-- Ann gets in, and the import of her second registration leaves no duplicates behind. -/
theorem sound_of_reachable_again :
    (leftBy batchOfAnn nobody).contents.committed = [rowForAnn] ∧
      Sound sameAddresses home
        (leftBy batchOfAnnAgain (leftBy batchOfAnn nobody)).contents.committed := by
  refine ⟨by decide +kernel, ?_⟩
  have hhome : Table.uuid? home = some home := by decide +kernel
  have hstart : Sound sameAddresses home nobody.contents.committed := by
    refine ⟨?_, .nil, ?_⟩
    · intro r hr
      cases hr
    · intro a ha
      cases ha
  have hreachable : Reachable Table.database Table.State.contents sameAddresses home nobody
      (leftBy batchOfAnnAgain (leftBy batchOfAnn nobody)) :=
    reachable_leftBy batchOfAnnAgain (reachable_leftBy batchOfAnn .start)
  exact sound_of_reachable (Table.faithful hhome) (by decide +kernel) hstart hreachable

end Registrar.Import
