/-
# Pieces of work on the site

A piece of work is a function of the site, so that a sequence of them is computed step by step.
The lemmas of this file say what the small steps do: a sequence runs its parts one after the
other, and a log event, a metric or a slot of the gate changes nothing else.
-/
import Intercept.Proofs.System.Disk
import Intercept.Site

namespace Intercept

namespace Run

variable {α β : Type}

@[simp] lemma run_pure (a : α) (site : Site) : (pure a : Run α).run site = (a, site) := rfl

@[simp] lemma run_bind (work : Run α) (next : α → Run β) (site : Site) :
    (work >>= next).run site = (next (work.run site).1).run (work.run site).2 := rfl

end Run

namespace Site

/-- The site with one more event in its log. -/
def logged (site : Site) (event : Event) : Site :=
  { site with journal := site.journal.log event }

@[simp] lemma run_log (event : Event) (site : Site) :
    (Site.log event).run site = ((), site.logged event) := rfl

@[simp] lemma run_count (metric : Metric) (n : Nat) (site : Site) :
    (Site.count metric n).run site = ((), { site with journal := site.journal.count metric n }) :=
  rfl

@[simp] lemma run_nextSave (site : Site) :
    Site.nextSave.run site = (site.saves + 1, { site with saves := site.saves + 1 }) := rfl

@[simp] lemma run_nextScratch (site : Site) :
    Site.nextScratch.run site
      = (site.scratches + 1, { site with scratches := site.scratches + 1 }) := rfl

@[simp] lemma run_onDisk {α : Type} (change : Disk → α × Disk) (site : Site) :
    (Site.onDisk change).run site
      = ((change site.disk).1, { site with disk := (change site.disk).2 }) := rfl

/-- The site when it was tried to take a slot of the gate. -/
def admitted (site : Site) : Site := (Site.acquire.run site).2

lemma gate_admitted (site : Site) : site.admitted.gate = site.gate.acquire.2 := rfl

lemma run_acquire (site : Site) :
    Site.acquire.run site = (decide (site.gate.live < site.gate.ceiling), site.admitted) := by
  by_cases hfree : site.gate.live < site.gate.ceiling
  · simp [admitted, acquire, Gate.acquire, modifyGet, MonadStateOf.modifyGet, StateT.run,
      StateT.modifyGet, pure, hfree]
  · simp [admitted, acquire, Gate.acquire, modifyGet, MonadStateOf.modifyGet, StateT.run,
      StateT.modifyGet, pure, hfree]

end Site

namespace Journal

@[simp] lemma events_set (journal : Journal) (metric : Metric) (n : Nat) :
    (journal.set metric n).events = journal.events := rfl

@[simp] lemma events_count (journal : Journal) (metric : Metric) (n : Nat) :
    (journal.count metric n).events = journal.events := rfl

lemma lookup_put (metric other : Metric) (n : Nat) (values : List (Metric × Nat)) :
    (put metric n values).lookup other
      = if other = metric then some n else values.lookup other := by
  refine lookup_upsert (put metric n) rfl (fun first value rest => ?_) values
  rw [put]
  split
  · next hfirst => rw [hfirst]
  · rfl

end Journal

namespace Site

@[simp] lemma events_logged (site : Site) (event : Event) :
    (site.logged event).journal.events = site.journal.events ++ [event] := rfl

/-- A slot that is taken leaves no trace in the log. -/
@[simp] lemma events_admitted (site : Site) :
    site.admitted.journal.events = site.journal.events := by
  by_cases hfree : site.gate.live < site.gate.ceiling
  · simp [admitted, acquire, Gate.acquire, modifyGet, MonadStateOf.modifyGet, StateT.run,
      StateT.modifyGet, pure, hfree]
  · simp [admitted, acquire, Gate.acquire, modifyGet, MonadStateOf.modifyGet, StateT.run,
      StateT.modifyGet, pure, hfree]

end Site

end Intercept
