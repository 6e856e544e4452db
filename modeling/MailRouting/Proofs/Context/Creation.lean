import MailRouting.Proofs.Address.Path
import MailRouting.Proofs.Context.PathLimit
import MailRouting.Proofs.DomainList

/-!
# Making a context

A context is made in steps that may fail: the name of its spool is looked at, then its postmaster is
read from the settings or found out from the default domain. Only when there is a postmaster is it
asked whether its domain is served, and whatever the answer is, the spool is asked for.

* `Routine.createdQueues`, `Site.asked_perform` — the queues that a run asks for, of which a site
  keeps account;
* `Creation` — the five ways in which making a context goes, each with what is asked and what comes
  of it; `RoutingContext.creation_trace_run` — every run goes in one of these ways;
* `Creation.eq_ok_iff` and the lemmas before it — which way it is; `Creation.of_error`, `of_ok` —
  what was asked;
* `RoutingContext.isLocalServer_postmaster` — the postmaster of a default domain is at home there;
* `RoutingContext.create_fails_before_spool` — all of this, for all settings and whoever answers.
-/

namespace MailRouting

open Routine (Exchange)

/-- The postmaster of a domain. -/
def Domain.postmaster (d : Domain) : Address :=
  ⟨"postmaster", d, LocalPart.check_postmaster⟩

theorem Domain.ofParts_postmaster (d : Domain) :
    Address.ofParts "postmaster" d = .ok d.postmaster :=
  d.postmaster.ofParts_localPart_domain

/-- The name of the spool is empty or blank. -/
def ContextConfig.BlankSpool (config : ContextConfig) : Prop :=
  ∀ c ∈ config.spoolQueue.toList, Text.isBlank c = true

theorem ContextConfig.blankSpool_iff {config : ContextConfig} :
    (Text.trim config.spoolQueue.toList).isEmpty = true ↔ config.BlankSpool := by
  rw [List.isEmpty_iff, Text.trim_eq_nil_iff, BlankSpool]

/-! ### The queues that are asked for -/

/-- The queue that is to be there. -/
def Request.createdQueue? : Request → Option String
  | .createQueue name => some name
  | _ => none

/-- The queues that were asked for, in order. -/
def Routine.createdQueues (xs : List Exchange) : List String :=
  xs.filterMap (·.request.createdQueue?)

theorem Routine.createdQueues_cons (x : Exchange) (xs : List Exchange) :
    createdQueues (x :: xs) = x.request.createdQueue?.toList ++ createdQueues xs := by
  unfold createdQueues
  cases h : x.request.createdQueue? with
  | none => exact List.filterMap_cons_none h
  | some name => exact List.filterMap_cons_some h

open Routine (createdQueues)

/-- Between the two sites these queues were asked for, and the directory stayed the same. -/
structure Site.Asked (s t : Site) (names : List String) : Prop where
  directory : t.directory = s.directory
  requestedQueues : t.requestedQueues = s.requestedQueues ++ names

namespace Site

theorem Asked.nothing {s t : Site} (hdirectory : t.directory = s.directory)
    (hqueues : t.requestedQueues = s.requestedQueues) : Asked s t [] :=
  ⟨hdirectory, by rw [hqueues, List.append_nil]⟩

theorem Asked.trans {s t u : Site} {names names' : List String} (h : Asked s t names)
    (h' : Asked t u names') : Asked s u (names ++ names') where
  directory := h'.directory.trans h.directory
  requestedQueues := by rw [h'.requestedQueues, h.requestedQueues, List.append_assoc]

theorem asked_serve {ε α : Type} (s : Site) (service : Service) (outage : ε)
    {answer : Site → Except ε α × Site} (h : ∀ t, Asked t (answer t).2 []) :
    Asked s (s.serve service outage answer).2 [] := by
  have hcount : Asked s (s.count service) [] := .nothing rfl rfl
  rw [serve_eq]
  split
  · exact hcount
  · exact hcount.trans (h (s.count service))

theorem asked_pushMail (s : Site) (queue : String) (mail : Mail) (delay : Option Delay) :
    Asked s (s.pushMail queue mail delay).2 [] := by
  unfold pushMail
  split <;> exact .nothing rfl rfl

theorem asked_takeMail (s : Site) (queue : String) (mail : Mail) (delay : Option Delay) :
    Asked s (s.takeMail queue mail delay).2 [] := by
  apply asked_serve
  intro t
  have hcall : Asked t { t with queueCalls := t.queueCalls ++ [⟨queue, mail, delay⟩] } [] :=
    .nothing rfl rfl
  exact hcall.trans (asked_pushMail _ queue mail delay)

/-- A request for a queue is put down, and no other one is. -/
theorem asked_answer (r : Request) (s : Site) :
    Asked s (s.answer r).2 r.createdQueue?.toList := by
  cases r with
  | containsDomain d => exact asked_serve s .domains _ fun _ => .nothing rfl rfl
  | defaultDomain => exact asked_serve s .domains _ fun _ => .nothing rfl rfl
  | containsUser p => exact asked_serve s .users _ fun _ => .nothing rfl rfl
  | principalFor a =>
    show Asked s (s.contextPrincipal a).2 []
    unfold contextPrincipal
    split
    · exact .nothing rfl rfl
    · exact asked_serve s .users _ fun _ => .nothing rfl rfl
  | resolvedMappings localPart d kinds => exact asked_serve s .mappings _ fun _ => .nothing rfl rfl
  | createQueue name => exact ⟨rfl, rfl⟩
  | enqueue queue mail => exact asked_takeMail s queue mail none
  | enqueueDelayed queue mail delay => exact asked_takeMail s queue mail (some delay)
  | freshId => exact .nothing rfl rfl
  | currentTime => exact .nothing rfl rfl

/-- A site keeps account of the queues that it is asked for. -/
theorem asked_perform {α : Type} (p : Routine α) (s : Site) :
    Asked s (s.perform p).2 (createdQueues (p.trace handler s)) := by
  induction p generalizing s with
  | done a => exact .nothing rfl rfl
  | ask r next ih =>
    rw [Routine.trace_ask, Routine.createdQueues_cons]
    exact (asked_answer r s).trans (ih (s.answer r).1 (s.answer r).2)
  | note e next ih =>
    have hnote : Asked s (note e s) [] := .nothing rfl rfl
    exact hnote.trans (ih (note e s))

/-- Where the default domain can be read, it is that of the list. -/
theorem answer_defaultDomain_eq_ok_iff {s : Site} {d : Domain} :
    (handler.answer .defaultDomain s).1 = .ok d ↔
      Service.domains ∉ s.down ∧ s.domains.defaultDomain = d := by
  show s.defaultDomain.1 = .ok d ↔ _
  rw [defaultDomain, serve_eq]
  split
  · next hdown =>
    constructor
    · intro h
      cases h
    · intro h
      exact absurd hdown h.1
  · next hup =>
    rw [Except.ok.injEq]
    exact (and_iff_right hup).symm

end Site

/-! ### The ways in which it goes -/

/-- What is asked once there is a postmaster. -/
def lastQuestions (config : ContextConfig) (p : Address) (answer : Except DomainListError Bool) :
    List Exchange :=
  [⟨.containsDomain p.domain, answer⟩, ⟨.createQueue config.spoolQueue, ()⟩]

/-- How making a context goes: what is asked, and what it comes to. Its five ways are told apart by
the settings and by the answer to the first question, if there is one. -/
inductive Creation {σ : Type} (config : ContextConfig) (h : Handler σ) (s : σ) :
    List Exchange → Except ContextError RoutingContext × σ → Prop
  | unnamed (hname : config.BlankSpool) :
      Creation config h s [] (.error .blankSpoolQueue, s)
  | refused {value : String} {cause : AddressError} (hname : ¬config.BlankSpool)
      (hgiven : config.postmaster = some value) (hparse : Address.parse value = .error cause) :
      Creation config h s [] (.error (.invalidPostmaster value cause), s)
  | unread {cause : DomainListError} {t : σ} (hname : ¬config.BlankSpool)
      (hnone : config.postmaster = none) (hread : h.answer .defaultDomain s = (.error cause, t)) :
      Creation config h s [⟨.defaultDomain, .error cause⟩]
        (.error (.resolution (.domains cause)), t)
  | given {value : String} {p : Address} (answer : Except DomainListError Bool) (t : σ)
      (hname : ¬config.BlankSpool) (hgiven : config.postmaster = some value)
      (hparse : Address.parse value = .ok p) :
      Creation config h s (lastQuestions config p answer) (.ok ⟨config, p⟩, t)
  | derived {d : Domain} (answer : Except DomainListError Bool) (t : σ)
      (hname : ¬config.BlankSpool) (hnone : config.postmaster = none)
      (hread : (h.answer .defaultDomain s).1 = .ok d) :
      Creation config h s (⟨.defaultDomain, .ok d⟩ :: lastQuestions config d.postmaster answer)
        (.ok ⟨config, d.postmaster⟩, t)

namespace RoutingContext

variable {config : ContextConfig} {σ : Type}

/-- What making a context comes to once there is a postmaster. -/
def opening (config : ContextConfig) (p : Address) :
    ExceptT ContextError Routine RoutingContext := do
  checkPostmaster p
  let _ ← Routine.request (.createQueue config.spoolQueue)
  log .info "Routing context ready" [("postmaster", p.text), ("spool", config.spoolQueue)]
  pure { config, postmaster := p }

theorem run_create_of_blank (hname : config.BlankSpool) :
    (create config).run = .done (.error .blankSpoolQueue) := by
  unfold create
  rw [if_pos (ContextConfig.blankSpool_iff.2 hname)]
  rfl

theorem create_of_named (hname : ¬config.BlankSpool) :
    create config = findPostmaster config >>= opening config := by
  unfold create
  rw [if_neg (mt ContextConfig.blankSpool_iff.1 hname)]
  rfl

theorem run_create_of_some {value : String} (hname : ¬config.BlankSpool)
    (hgiven : config.postmaster = some value) : (create config).run =
      match Address.parse value with
      | .ok p => (opening config p).run
      | .error cause => .done (.error (.invalidPostmaster value cause)) := by
  rw [create_of_named hname]
  unfold findPostmaster
  rw [hgiven]
  dsimp only
  cases Address.parse value with
  | ok p => rfl
  | error cause => rfl

theorem run_create_of_none (hname : ¬config.BlankSpool) (hnone : config.postmaster = none) :
    (create config).run = .ask .defaultDomain fun
      | .ok d => (opening config d.postmaster).run
      | .error cause => .done (.error (.resolution (.domains cause))) := by
  rw [create_of_named hname]
  unfold findPostmaster
  rw [hnone]
  show Routine.ask .defaultDomain _ = _
  refine congrArg _ (funext fun answer => ?_)
  cases answer with
  | ok d =>
    show ExceptT.bindCont (opening config) ((Address.ofParts "postmaster" d).mapError _) = _
    rw [d.ofParts_postmaster]
    rfl
  | error cause => rfl

/-- Whatever the answer about the domain of the postmaster is, the spool is asked for. -/
theorem opening_trace_run (config : ContextConfig) (h : Handler σ) (s : σ) (p : Address) :
    ∃ answer t, (opening config p).run.trace h s = lastQuestions config p answer ∧
      (opening config p).run.run h s = (.ok ⟨config, p⟩, t) := by
  obtain ⟨answer, ys, htrace, hrest⟩ := Routine.ends_trace_result h (opening config p).run s
  have hopened : ys = [⟨.createQueue config.spoolQueue, ()⟩] ∧
      (opening config p).run.result h s = .ok ⟨config, p⟩ := by
    -- the answer decides only what is written into the log
    cases answer with
    | error cause =>
      obtain ⟨_, _, hys, rfl, hresult⟩ := hrest
      exact ⟨hys, hresult⟩
    | ok found =>
      cases found with
      | true =>
        obtain ⟨_, _, hys, rfl, hresult⟩ := hrest
        exact ⟨hys, hresult⟩
      | false =>
        obtain ⟨_, _, hys, rfl, hresult⟩ := hrest
        exact ⟨hys, hresult⟩
  obtain ⟨rfl, hresult⟩ := hopened
  exact ⟨answer, _, htrace, Prod.ext hresult rfl⟩

/-- Whoever answers, making a context goes in one of the five ways. -/
theorem creation_trace_run (config : ContextConfig) (h : Handler σ) (s : σ) :
    Creation config h s ((create config).run.trace h s) ((create config).run.run h s) := by
  by_cases hname : config.BlankSpool
  · rw [run_create_of_blank hname]
    exact .unnamed hname
  · cases hconfig : config.postmaster with
    | some value =>
      rw [run_create_of_some hname hconfig]
      cases hparse : Address.parse value with
      | error cause => exact .refused hname hconfig hparse
      | ok p =>
        obtain ⟨answer, t, htrace, hrun⟩ := opening_trace_run config h s p
        dsimp only
        rw [htrace, hrun]
        exact .given answer t hname hconfig hparse
    | none =>
      rw [run_create_of_none hname hconfig, Routine.trace_ask, Routine.run_ask]
      generalize hread : h.answer .defaultDomain s = read
      obtain ⟨cause | d, t⟩ := read
      · exact .unread hname hconfig hread
      · obtain ⟨answer, t', htrace, hrun⟩ := opening_trace_run config h t d.postmaster
        dsimp only
        rw [htrace, hrun]
        exact .derived answer t' hname hconfig (by rw [hread])

end RoutingContext

/-! ### Which way it is -/

namespace Creation

variable {σ : Type} {config : ContextConfig} {h : Handler σ} {s : σ} {xs xs' : List Exchange}
  {out out' : Except ContextError RoutingContext × σ} {c : RoutingContext}

/-- The ways exclude each other, and the answer about the domain of the postmaster is of no account
for the result. -/
theorem result_unique (hc : Creation config h s xs out) (hc' : Creation config h s xs' out') :
    out.1 = out'.1 := by
  cases hc <;> cases hc' <;> grind

theorem eq_blankSpoolQueue_iff (hc : Creation config h s xs out) :
    out.1 = .error .blankSpoolQueue ↔ config.BlankSpool := by
  constructor
  · intro hr
    cases hc with
    | unnamed hname => exact hname
    | _ => cases hr
  · intro hname
    exact hc.result_unique (.unnamed hname)

theorem eq_invalidPostmaster_iff (hc : Creation config h s xs out) {value : String}
    {cause : AddressError} : out.1 = .error (.invalidPostmaster value cause) ↔
      ¬config.BlankSpool ∧ config.postmaster = some value ∧
        Address.parse value = .error cause := by
  constructor
  · intro hr
    cases hc with
    | refused hname hgiven hparse =>
      cases hr
      exact ⟨hname, hgiven, hparse⟩
    | _ => cases hr
  · intro ⟨hname, hgiven, hparse⟩
    exact hc.result_unique (.refused hname hgiven hparse)

theorem eq_resolution_iff (hc : Creation config h s xs out) {e : ResolutionError} :
    out.1 = .error (.resolution e) ↔ ¬config.BlankSpool ∧ config.postmaster = none ∧
      ∃ cause, (h.answer .defaultDomain s).1 = .error cause ∧ e = .domains cause := by
  constructor
  · intro hr
    cases hc with
    | unread hname hnone hread =>
      cases hr
      exact ⟨hname, hnone, _, by rw [hread], rfl⟩
    | _ => cases hr
  · rintro ⟨hname, hnone, cause, hread, rfl⟩
    exact hc.result_unique (.unread hname hnone (Prod.ext hread rfl))

theorem eq_ok_iff (hc : Creation config h s xs out) :
    out.1 = .ok c ↔ ¬config.BlankSpool ∧ c.config = config ∧
      ((∃ value, config.postmaster = some value ∧ Address.parse value = .ok c.postmaster) ∨
        config.postmaster = none ∧
          ∃ d, (h.answer .defaultDomain s).1 = .ok d ∧ c.postmaster = d.postmaster) := by
  constructor
  · intro hr
    cases hc with
    | given answer t hname hgiven hparse =>
      cases hr
      exact ⟨hname, rfl, .inl ⟨_, hgiven, hparse⟩⟩
    | derived answer t hname hnone hread =>
      cases hr
      exact ⟨hname, rfl, .inr ⟨hnone, _, hread, rfl⟩⟩
    | _ => cases hr
  · obtain ⟨config', postmaster⟩ := c
    rintro ⟨hname, rfl, ⟨value, hgiven, hparse⟩ | ⟨hnone, d, hread, rfl⟩⟩
    · exact hc.result_unique (.given (.ok true) s hname hgiven hparse)
    · exact hc.result_unique (.derived (.ok true) s hname hnone hread)

/-- Where no context is made no queue was asked for, and nothing at all unless the default domain
cannot be read. -/
theorem of_error (hc : Creation config h s xs out) {e : ContextError} (hr : out.1 = .error e) :
    createdQueues xs = [] ∧ (xs = [] ∧ out.2 = s ∨
      ∃ cause, e = .resolution (.domains cause) ∧ xs = [⟨.defaultDomain, .error cause⟩] ∧
        out.2 = (h.answer .defaultDomain s).2) := by
  cases hc with
  | unnamed => exact ⟨rfl, .inl ⟨rfl, rfl⟩⟩
  | refused => exact ⟨rfl, .inl ⟨rfl, rfl⟩⟩
  | unread _ _ hread =>
    cases hr
    exact ⟨rfl, .inr ⟨_, rfl, rfl, by rw [hread]⟩⟩
  | given => cases hr
  | derived => cases hr

/-- Where a context is made its spool is the one queue that was asked for, after all else. -/
theorem of_ok (hc : Creation config h s xs out) (hr : out.1 = .ok c) :
    createdQueues xs = [config.spoolQueue] ∧
      ∃ answer, xs = (if config.postmaster.isSome then []
          else [⟨.defaultDomain, .ok c.postmaster.domain⟩]) ++
        lastQuestions config c.postmaster answer := by
  cases hc with
  | given answer t hname hgiven hparse =>
    cases hr
    exact ⟨rfl, answer, by rw [hgiven]; rfl⟩
  | derived answer t hname hnone hread =>
    cases hr
    exact ⟨rfl, answer, by rw [hnone]; rfl⟩
  | _ => cases hr

end Creation

namespace RoutingContext

/-- Where the postmaster comes from the list of domains, its domain is registered there, and so it
is served. -/
theorem isLocalServer_postmaster {config : ContextConfig} {c : RoutingContext} {s : Site}
    (hkept : s.domains.Kept) (hnone : config.postmaster = none)
    (hr : (s.perform (create config).run).1 = .ok c) :
    c.postmaster.domain = s.domains.defaultDomain ∧
      s.domains.contains c.postmaster.domain = true ∧
      ((s.perform (create config).run).2.perform
        (LocalDelivery.isLocalServer c.postmaster.domain).run).1 = .ok true := by
  have hc := creation_trace_run config Site.handler s
  have hsame := (Site.asked_perform (create config).run s).directory
  obtain ⟨-, -, ⟨value, hgiven, -⟩ | ⟨-, d, hread, hpostmaster⟩⟩ := hc.eq_ok_iff.1 hr
  · cases hnone.symm.trans hgiven
  · obtain ⟨hup, rfl⟩ := Site.answer_defaultDomain_eq_ok_iff.1 hread
    have hdomain : c.postmaster.domain = s.domains.defaultDomain := by
      rw [hpostmaster]
      rfl
    have hserved : s.domains.contains c.postmaster.domain = true := by
      rw [hdomain]
      exact hkept.default
    have hdown : (s.perform (create config).run).2.down = s.down :=
      congrArg Directory.down hsame
    have hdomains : (s.perform (create config).run).2.domains = s.domains :=
      congrArg Directory.domains hsame
    refine ⟨hdomain, hserved, DomainList.isLocalServer_of_contains ?_ ?_⟩
    · rwa [hdown]
    · rwa [hdomains]

/-- Where no context is made the site has the same queues, and no queue was asked for. -/
theorem queues_of_create_error {config : ContextConfig} {e : ContextError} {s : Site}
    (hr : (s.perform (create config).run).1 = .error e) :
    (s.perform (create config).run).2.queues = s.queues ∧
      (s.perform (create config).run).2.requestedQueues = s.requestedQueues := by
  constructor
  · obtain ⟨e', t, hrun, hqueues⟩ | ⟨c, t, hrun, -⟩ := perform_create_cases config s
    · rw [hrun]
      exact hqueues
    · rw [hrun] at hr
      cases hr
  · have hnone := ((creation_trace_run config Site.handler s).of_error hr).1
    rw [(Site.asked_perform (create config).run s).requestedQueues, hnone, List.append_nil]

/-- Where a context is made the site has its spool, the one queue that was asked for. -/
theorem queues_of_create_ok {config : ContextConfig} {c : RoutingContext} {s : Site}
    (hr : (s.perform (create config).run).1 = .ok c) :
    (s.perform (create config).run).2.queues = s.queues.ensure config.spoolQueue ∧
      (s.perform (create config).run).2.requestedQueues =
        s.requestedQueues ++ [config.spoolQueue] := by
  constructor
  · obtain ⟨e, t, hrun, -⟩ | ⟨c', t, hrun, -, hqueues⟩ := perform_create_cases config s
    · rw [hrun] at hr
      cases hr
    · rw [hrun]
      exact hqueues
  · have hspool := ((creation_trace_run config Site.handler s).of_ok hr).1
    rw [(Site.asked_perform (create config).run s).requestedQueues, hspool]

/-- **Making a context.** Whoever answers: it fails because of the name of the spool exactly if that
is blank; else because of the postmaster exactly if one is given that cannot be read; and else
exactly if none is given and the default domain cannot be read. In each case no queue was asked for,
and nothing else either, unless it was the default domain. In all other cases a context is made,
whether the domain of the postmaster is served, is not, or that cannot be told; the one queue that
is asked for has the name that is given, and the postmaster is the mailbox that is given, or else
that of the default domain. At a site the queues are left as they are if no context is made; and if
one is made without a given postmaster over a list of domains, after any calls, then the domain of
its postmaster is served. -/
theorem create_fails_before_spool (config : ContextConfig) :
    (∀ {σ : Type} (h : Handler σ) (s : σ),
      let xs := (create config).run.trace h s
      let out := (create config).run.run h s
      (out.1 = .error .blankSpoolQueue ↔ config.BlankSpool) ∧
      (∀ value cause, out.1 = .error (.invalidPostmaster value cause) ↔
        ¬config.BlankSpool ∧ config.postmaster = some value ∧
          Address.parse value = .error cause) ∧
      (∀ e, out.1 = .error (.resolution e) ↔ ¬config.BlankSpool ∧ config.postmaster = none ∧
        ∃ cause, (h.answer .defaultDomain s).1 = .error cause ∧ e = .domains cause) ∧
      (∀ c, out.1 = .ok c ↔ ¬config.BlankSpool ∧ c.config = config ∧
        ((∃ value, config.postmaster = some value ∧ Address.parse value = .ok c.postmaster) ∨
          config.postmaster = none ∧
            ∃ d, (h.answer .defaultDomain s).1 = .ok d ∧ c.postmaster = d.postmaster)) ∧
      (∀ e, out.1 = .error e → createdQueues xs = [] ∧ (xs = [] ∧ out.2 = s ∨
        ∃ cause, e = .resolution (.domains cause) ∧ xs = [⟨.defaultDomain, .error cause⟩] ∧
          out.2 = (h.answer .defaultDomain s).2)) ∧
      ∀ c, out.1 = .ok c → createdQueues xs = [config.spoolQueue] ∧
        ∃ answer, xs = (if config.postmaster.isSome then []
            else [⟨.defaultDomain, .ok c.postmaster.domain⟩]) ++
          [⟨.containsDomain c.postmaster.domain, answer⟩,
            ⟨.createQueue config.spoolQueue, ()⟩]) ∧
    ∀ s : Site,
      let out := s.perform (create config).run
      (∀ e, out.1 = .error e →
        out.2.queues = s.queues ∧ out.2.requestedQueues = s.requestedQueues) ∧
      ∀ c, out.1 = .ok c →
        (out.2.queues = s.queues.ensure config.spoolQueue ∧
          out.2.requestedQueues = s.requestedQueues ++ [config.spoolQueue]) ∧
        ∀ settings calls, s.domains = DomainList.afterCalls settings calls →
          config.postmaster = none →
          c.postmaster.domain = s.domains.defaultDomain ∧
            s.domains.contains c.postmaster.domain = true ∧
            (out.2.perform (LocalDelivery.isLocalServer c.postmaster.domain).run).1 =
              .ok true := by
  constructor
  · intro σ h s
    have hc := creation_trace_run config h s
    exact ⟨hc.eq_blankSpoolQueue_iff, fun _ _ => hc.eq_invalidPostmaster_iff,
      fun _ => hc.eq_resolution_iff, fun _ => hc.eq_ok_iff, fun _ => hc.of_error,
      fun _ => hc.of_ok⟩
  · intro s
    refine ⟨fun _ => queues_of_create_error, ?_⟩
    intro c hr
    refine ⟨queues_of_create_ok hr, ?_⟩
    intro settings calls hlist hnone
    apply isLocalServer_postmaster ?_ hnone hr
    rw [hlist]
    exact DomainList.kept_afterCalls settings calls

-- while the domains are down, a context is made if a postmaster is given, and no other one
example :
    let s : Site := { down := [.domains] }
    let given := s.perform (create { postmaster := some "admin@example.org" }).run
    let derived := s.perform (create {}).run
    (given.1.isOk = true ∧ given.2.requestedQueues = ["spool"]) ∧
      derived.1.isOk = false ∧ derived.2.requestedQueues = [] := by
  decide +kernel

end RoutingContext

end MailRouting
