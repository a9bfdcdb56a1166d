import AccessControl.CommandLine.Run
import AccessControl.Proofs.Config.Document
import AccessControl.Proofs.Enforcer.Classic
import AccessControl.Proofs.Enforcer.Reported

/-! The code and the lines of a command that decides tell what became of the decision, unless an
error gets out that is not reported: then a document has a byte, a number, a moment or a kind of
value that is not expected in it, the system hides a file, or the report cannot be drawn. -/

namespace AccessControl

/-! ### Reports as JSON -/

namespace Document

end Document

namespace CommandLine

section

variable [host : Host] [Document.Readers] [Packages]

end

namespace Answer

variable {account : Account} {error : Error}

end Answer

/-! ### Files that are there -/

section

variable {files : Document.Files}

end

section

variable [host : Host] [Document.Readers] {files : Document.Files} {functions : Registry}
  {model policy : String} {config : Option String} {request : List String}

/-- The documents have nothing in them that is not expected: the system tells whether they are
there, all can be converted and written, the configuration has numbers or texts for its limits, the
model has texts, lists or mappings for its schemas, the numbers of its matchers can be read, and
what its first matcher compares fits. -/
structure Fits (files : Document.Files) (model policy : String)
    (config : Option String) : Prop where
  told : ∀ path ∈ (model :: policy :: config.toList).map Document.normalPath,
    ∃ isThere, files.exists path = .ok isThere
  configured : ∀ path, config = some path → Config.FitsFile files path
  modelled : Model.FitsFile files model
  ruled : RuleDocument.FitsFile files policy
  short : ∀ read, Model.ofFile files model = .ok read → ∀ entry ∈ read.matchers, IsShort entry.2
  compared : ∀ read matchers, Model.ofFile files model = .ok read →
    Enforcer.readMatchers read.matchers = .ok matchers →
      ∀ matcher, lookupKey "m" matchers = some matcher → matcher.Fits host

/-- With such documents there is a report, or an error that is reported. -/
theorem Fits.reports (fits : Fits files model policy config) (now : Time.Moment) :
    Reports (reportOf files (.builtin now) model policy config request).result := by
  simp only [reportOf, loadEnforcer, Logged.result_bind, Logged.result_ofExcept, Logged.result_pure]
  -- The configuration, the model, its matchers and the rules are read in this order.
  refine .bind (.bind ?_ fun settings _ => .bind fits.modelled.reports fun read modelled =>
    .bind (Enforcer.reports_setModel (fits.short read modelled)) fun start created =>
    .bind fits.ruled.reports fun rules ruled => ?_) fun enforcer loaded => .bind ?_ fun _ _ => .ok _
  · -- The configuration is read, or it is the default one.
    split
    · next path => exact (fits.configured path rfl).reports
    · exact .ok _
  · -- The rules are loaded.
    obtain ⟨policyRows, groupingRows⟩ := RuleDocument.areRows_of_ofFile ruled
    exact Enforcer.reports_load policyRows groupingRows
  · -- The request is decided.
    obtain ⟨settings, _, loaded⟩ := bind_eq_ok.mp loaded
    obtain ⟨read, modelled, loaded⟩ := bind_eq_ok.mp loaded
    obtain ⟨start, created, loaded⟩ := bind_eq_ok.mp loaded
    obtain ⟨rules, _, loaded⟩ := bind_eq_ok.mp loaded
    obtain ⟨_, matchers, own⟩ := Enforcer.create_made_of created
    -- Loading rules changes neither the functions nor the matchers nor the host.
    have same := Enforcer.load_bare loaded
    have sameOwn : enforcer.evaluator.functions = start.evaluator.functions :=
      congrArg (·.evaluator.functions) same
    have sameMatchers : enforcer.matchers = start.matchers := congrArg (·.matchers) same
    have sameHost : enforcer.host = host :=
      (congrArg (·.host) same).trans (Enforcer.create_host created)
    refine Enforcer.reports_decide request
      (fun _ _ => Enforcer.givesPlain_of_builtin (sameOwn.trans own)) fun matcher chosen => ?_
    -- The matcher of the decision is the first one of the model.
    rw [sameHost]
    refine fits.compared read start.matchers modelled matchers matcher ?_
    simp only [Enforcer.matcherFor, bne_self_eq_false, Bool.false_eq_true, if_false,
      sameMatchers] at chosen
    split at chosen
    · next found =>
      rw [← Except.ok.inj chosen]
      exact found
    · -- There is no such matcher.
      cases chosen

end

/-! ### A member of the staff -/

end CommandLine

end AccessControl
