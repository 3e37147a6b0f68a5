/-
# Work on files at some places

A piece of work is confined to some places if it touches no file at any other place: the paths that
it makes and removes files by lead to these places.  Meanwhile the numbers of files only grow, and
nothing is sent.

`Site.Since` is what such work preserves, from a site where it began; `Run.Confined` says that a
piece of work preserves it, and that what the work finds has a property.
-/
import Intercept.Proofs.Site
import Intercept.Proofs.System.Works

namespace Intercept

variable {α β : Type} {inside : Disk.Place → Prop} {start site : Site}

/-- A site came of another by work on the files at some places. -/
structure Site.Since (inside : Disk.Place → Prop) (start site : Site) : Prop where
  works : Disk.Works inside start.disk site.disk
  saves : start.saves ≤ site.saves
  scratches : start.scratches ≤ site.scratches
  sent : site.sent = start.sent

lemma Site.Since.refl (inside : Disk.Place → Prop) (start : Site) : Since inside start start :=
  ⟨Disk.Works.refl inside start.disk, Nat.le_refl _, Nat.le_refl _, rfl⟩

/-- A piece of work that is done since some point touches files at some places only, and what it
finds has a property. -/
def Run.Confined (inside : Disk.Place → Prop) (start : Site) (work : Run α) (post : α → Prop) :
    Prop :=
  ∀ site, Site.Since inside start site →
    Site.Since inside start (work.run site).2 ∧ post (work.run site).1

namespace Run

variable {work : Run α} {next : α → Run β} {post : α → Prop} {goal : β → Prop}

lemma confined_pure {a : α} (ha : post a) : Confined inside start (pure a : Run α) post :=
  fun _ h => ⟨h, ha⟩

/-- Work is done one piece after the other. -/
lemma Confined.bind (h : Confined inside start work post)
    (hnext : ∀ a, post a → Confined inside start (next a) goal) :
    Confined inside start (work >>= next) goal := by
  intro site hsite
  obtain ⟨hlater, ha⟩ := h site hsite
  exact hnext _ ha _ hlater

lemma confined_log (event : Event) : Confined inside start (Site.log event) fun _ => True :=
  fun _ h => ⟨⟨h.works, h.saves, h.scratches, h.sent⟩, trivial⟩

lemma confined_logAll (events : List Event) :
    Confined inside start (Site.logAll events) fun _ => True :=
  fun _ h => ⟨⟨h.works, h.saves, h.scratches, h.sent⟩, trivial⟩

lemma confined_count (metric : Metric) (number : Nat) :
    Confined inside start (Site.count metric number) fun _ => True :=
  fun _ h => ⟨⟨h.works, h.saves, h.scratches, h.sent⟩, trivial⟩

/-- The number of a stored file that is begun is new. -/
lemma confined_nextSave : Confined inside start Site.nextSave fun n => start.saves < n :=
  fun _ h => ⟨⟨h.works, Nat.le_succ_of_le h.saves, h.scratches, h.sent⟩,
    Nat.lt_succ_of_le h.saves⟩

lemma confined_nextScratch : Confined inside start Site.nextScratch fun n => start.scratches < n :=
  fun _ h => ⟨⟨h.works, h.saves, Nat.le_succ_of_le h.scratches, h.sent⟩,
    Nat.lt_succ_of_le h.scratches⟩

lemma confined_onDisk {change : Disk → α × Disk}
    (h : ∀ disk, disk.here = start.disk.here → Disk.Works inside disk (change disk).2 ∧
      post (change disk).1) :
    Confined inside start (Site.onDisk change) post := by
  intro site hsite
  obtain ⟨hworks, hpost⟩ := h site.disk hsite.works.here
  exact ⟨⟨hsite.works.trans hworks, hsite.saves, hsite.scratches, hsite.sent⟩, hpost⟩

lemma confined_tryOnDisk {change : Disk → Except SystemError (α × Disk)}
    {post : Except SystemError α → Prop}
    (h : ∀ disk found after, disk.here = start.disk.here → change disk = .ok (found, after) →
      Disk.Works inside disk after ∧ post (.ok found))
    (hfailed : ∀ cause, post (.error cause)) :
    Confined inside start (Site.tryOnDisk change) post := by
  refine confined_onDisk fun disk hhere => ?_
  cases hchange : change disk with
  | error cause => exact ⟨Disk.Works.refl inside disk, hfailed cause⟩
  | ok made => exact h disk made.1 made.2 hhere hchange

/-- A file is made at the end of its path. -/
lemma confined_create {path : String} (hleads : Disk.Leads inside start.disk.here path) :
    Confined inside start (Site.tryOnDisk fun disk => disk.create path)
      fun found => ∀ place, found = .ok place → inside place := by
  refine confined_tryOnDisk (fun disk place after hhere hcreate => ?_)
    fun cause place h => nomatch h
  obtain ⟨hworks, hplace⟩ := Disk.works_create (hhere ▸ hleads) hcreate
  refine ⟨hworks, fun found hfound => ?_⟩
  obtain rfl := Except.ok.inj hfound
  exact hplace

/-- A file is removed at the end of its path. -/
lemma confined_remove {path : String} (hleads : Disk.Leads inside start.disk.here path) :
    Confined inside start
      (Site.tryOnDisk fun disk => (disk.remove path).map fun disk => ((), disk)) fun _ => True := by
  refine confined_tryOnDisk (fun disk found after hhere hremove => ⟨?_, trivial⟩)
    fun cause => trivial
  cases hcase : disk.remove path with
  | error cause =>
    rw [hcase] at hremove
    cases hremove
  | ok removed =>
    rw [hcase] at hremove
    obtain ⟨-, rfl⟩ := Prod.mk.inj (Except.ok.inj hremove)
    exact Disk.works_remove (hhere ▸ hleads) hcase

lemma confined_write {place : Disk.Place} (hplace : inside place) (bytes : Bytes) :
    Confined inside start (Site.onDisk fun disk => disk.write place bytes) fun _ => True :=
  confined_onDisk fun _ _ => ⟨(Disk.Change.write hplace bytes).works, trivial⟩

lemma confined_erase {place : Disk.Place} (hplace : inside place) :
    Confined inside start (Site.onDisk fun disk => ((), disk.erase place)) fun _ => True :=
  confined_onDisk fun _ _ => ⟨(Disk.Change.erase hplace).works, trivial⟩

end Run

end Intercept
