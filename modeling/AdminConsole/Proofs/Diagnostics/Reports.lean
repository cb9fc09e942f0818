import AdminConsole.Diagnostics.Basic

/-!
# Reports in order

A report changes nothing of the channel but the records of its sink, and those by one record at most. So what
a number of reports adds to the records is told by the reports alone: it is those that pass the level, if a
sink is installed.
-/

set_option autoImplicit false

namespace AdminConsole.Diagnostics

variable (d : Diagnostics) (severity : Severity) (message detail : String)

/-- A report leaves the level as it is. -/
@[simp] theorem level_report : (d.report severity message detail).level = d.level := by
  unfold report
  split <;> rfl

/-- A report leaves the sink where it is. -/
@[simp] theorem installed_report :
    (d.report severity message detail).installed = d.installed := by
  unfold report
  split <;> rfl

/-- A report is recorded if its severity is enabled and there is a sink. -/
theorem records_report : (d.report severity message detail).records =
    d.records ++ [⟨severity, message, detail⟩].filter
      fun r => d.enabled r.severity && d.installed := by
  unfold report
  split
  · rename_i hpasses
    simp [hpasses]
  · rename_i hstays
    simp [hstays]

/-- The channel after some reports, the first one first. -/
def reportAll (reports : List Report) : Diagnostics :=
  reports.foldl (fun d r => d.report r.severity r.message r.detail) d

/-- Reports in two parts are made one part after the other. -/
theorem reportAll_append (first second : List Report) :
    d.reportAll (first ++ second) = (d.reportAll first).reportAll second :=
  List.foldl_append

/-- **What some reports add to the records** are those of them that pass, in their order. -/
theorem reportAll_spec (reports : List Report) :
    (d.reportAll reports).level = d.level ∧ (d.reportAll reports).installed = d.installed ∧
      (d.reportAll reports).records =
        d.records ++ reports.filter fun r => d.enabled r.severity && d.installed := by
  induction reports generalizing d with
  | nil => simp [reportAll]
  | cons r reports ih =>
    obtain ⟨hlevel, hinstalled, hrecords⟩ := ih (d.report r.severity r.message r.detail)
    have henabled : ∀ severity, (d.report r.severity r.message r.detail).enabled severity =
        d.enabled severity := by
      intro severity
      simp [enabled]
    simp only [henabled, installed_report] at hrecords
    refine ⟨by simpa [reportAll] using hlevel, by simpa [reportAll] using hinstalled, ?_⟩
    have hsplit : r :: reports = [r] ++ reports := rfl
    rw [hsplit, reportAll_append, List.filter_append, ← List.append_assoc]
    have hfirst := d.records_report r.severity r.message r.detail
    rw [← hfirst]
    exact hrecords

end AdminConsole.Diagnostics
