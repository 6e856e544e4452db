import MailRouting.Message.Draft
import MailRouting.Proofs.Context.Operation
import MailRouting.Proofs.Message.AddressList
import MailRouting.Proofs.Message.Fields

/-!
# The envelope that a draft tells

A draft with an author, recipients, copies and hidden copies is a message; a context reads its
fields and sends it in the envelope that they tell. It is the envelope that was meant, for addresses
that are short enough to be read.

* `Message.Lists` — fields of a name that list these mailboxes, put together from parts;
* `Message.fieldAddresses_list` — the mailboxes of one field that lists addresses;
* `Draft.ofEnvelope`, `Draft.fields` — the draft, and its fields;
* `Draft.envelopeOf_ofEnvelope` — the envelope that is read from its message;
* `RoutingContext.SendsAs` — a message is sent once, at once, in this envelope and as it is;
* `RoutingContext.sendMessage_ofEnvelope` — the message of a draft is sent in its envelope;
* `RoutingContext.not_sendsAs_longAddress` — which an address of 257 octets prevents.
-/

namespace MailRouting

open DeliveryReport (fieldOctets)
open Message (fieldLine line optionalLine)
open Text (IsLine)
open Text.Utf8 (octetCount)

/-! ### The mailboxes of the fields of a name -/

namespace Message

variable {name : String} {fields fields' : List Field} {as as' : List Address} {f : Field}

/-- Among the fields, those of the name list these mailboxes. -/
def Lists (name : String) (fields : List Field) (as : List Address) : Prop :=
  ∃ lists, (fields.filter (·.isNamed name)).mapM (fieldAddresses name) = .ok lists ∧
    lists.flatten = as

theorem Lists.append (h : Lists name fields as) (h' : Lists name fields' as') :
    Lists name (fields ++ fields') (as ++ as') := by
  obtain ⟨lists, hlists, rfl⟩ := h
  obtain ⟨lists', hlists', rfl⟩ := h'
  refine ⟨lists ++ lists', ?_, List.flatten_append⟩
  rw [List.filter_append, List.mapM_append, hlists, hlists']
  rfl

/-- Fields of other names list nothing. -/
theorem lists_of_other (h : ∀ f ∈ fields, f.isNamed name = false) : Lists name fields [] := by
  refine ⟨[], ?_, rfl⟩
  rw [List.filter_eq_nil_iff.2 fun f hf => by rw [h f hf]; exact Bool.false_ne_true]
  rfl

theorem lists_singleton (hname : f.isNamed name = true) (h : fieldAddresses name f = .ok as) :
    Lists name [f] as := by
  refine ⟨[as], ?_, List.flatten_singleton⟩
  rw [List.filter_cons_of_pos (p := fun f : Field => f.isNamed name) hname, List.filter_nil,
    List.mapM_cons, h]
  rfl

theorem Lists.addresses_eq {m : Message} (h : Lists name fields as) (hm : m.fields = .ok fields) :
    m.addresses name = .ok as := by
  obtain ⟨lists, hlists, rfl⟩ := h
  rw [addresses, hm]
  show ((fields.filter (·.isNamed name)).mapM (fieldAddresses name) >>= fun lists => _) = _
  rw [hlists]
  rfl

/-- The first field of a name is read first. -/
theorem addresses_eq_error {m : Message} {e : MessageError} (hm : m.fields = .ok (f :: fields))
    (hname : f.isNamed name = true) (h : fieldAddresses name f = .error e) :
    m.addresses name = .error e := by
  rw [addresses, hm]
  show (((f :: fields).filter (·.isNamed name)).mapM (fieldAddresses name) >>= fun lists => _) = _
  rw [List.filter_cons_of_pos (p := fun f : Field => f.isNamed name) hname, List.mapM_cons, h]
  rfl

/-! ### One field -/

/-- The value of a field that lists addresses. -/
def listValue (as : List Address) : String :=
  String.intercalate ", " (as.map (·.text))

/-- The address as it is read back, or why it cannot be. -/
def readBack (name : String) (a : Address) : Except MessageError Address :=
  (Address.parse a.text).mapError (.invalidAddress name)

theorem readBack_of_short {a : Address} (h : octetCount a.text.toList ≤ Address.maxPathOctets) :
    readBack name a = .ok a := by
  rw [readBack, Address.parse_text, if_neg (Nat.not_lt_of_le h)]
  rfl

theorem readBack_of_long {a : Address} (h : Address.maxPathOctets < octetCount a.text.toList) :
    readBack name a = .error (.invalidAddress name .pathTooLong) := by
  rw [readBack, Address.parse_text, if_pos h]
  rfl

theorem toList_listValue (as : List Address) :
    (listValue as).toList = AddressList.listText (as.map (·.text.toList)) := by
  rw [listValue, String.toList_intercalate, List.map_map]
  rfl

/-- A field that lists addresses is read as these, one by one. -/
theorem fieldAddresses_list (fieldName : String) (hne : as ≠ []) (h : ∀ a ∈ as, a.IsSimple) :
    fieldAddresses name (Field.ofPair (fieldName, listValue as)) = as.mapM (readBack name) := by
  have hnonempty : as.map (·.text.toList) ≠ [] := fun hnil => hne (List.map_eq_nil_iff.1 hnil)
  have htexts : ∀ s ∈ as.map (·.text.toList), AddressList.IsMailboxText s := by
    intro s hs
    obtain ⟨a, ha, rfl⟩ := List.mem_map.1 hs
    exact (h a ha).isMailboxText
  have hvalue : (Field.ofPair (fieldName, listValue as)).value =
      AddressList.listText (as.map (·.text.toList)) := by
    obtain ⟨c, t, hhead, hc⟩ := AddressList.exists_head_listText hnonempty htexts
    have hspace : ¬decide (c = ' ') = true := by
      rw [decide_eq_true_eq]
      rintro rfl
      exact absurd hc.not_blank (by decide)
    show (listValue as).toList.dropWhile (· = ' ') = _
    rw [toList_listValue, hhead, List.dropWhile_cons_of_neg (p := (· = ' ')) hspace]
  rw [fieldAddresses, hvalue, AddressList.mailboxes_list hnonempty htexts]
  show (as.map (·.text.toList)).mapM (fun s =>
    (Address.parse (String.ofList s)).mapError (MessageError.invalidAddress name)) = _
  rw [List.mapM_map]
  refine congrArg (as.mapM ·) (funext fun a => ?_)
  rw [readBack, Function.comp_apply, String.ofList_toList]

theorem mapM_readBack_of_short
    (h : ∀ a ∈ as, octetCount a.text.toList ≤ Address.maxPathOctets) :
    as.mapM (readBack name) = .ok as := by
  induction as with
  | nil => rfl
  | cons a as ih =>
    obtain ⟨ha, hrest⟩ := List.forall_mem_cons.1 h
    rw [List.mapM_cons, readBack_of_short ha, ih hrest]
    rfl

/-- Fields that all bear another name list nothing. -/
theorem lists_of_name {n : String} {pairs : List (String × String)} (hn : ∀ p ∈ pairs, p.1 = n)
    (hother : (Field.ofPair (n, "")).isNamed name = false) :
    Lists name (pairs.map Field.ofPair) [] := by
  refine lists_of_other fun f hf => ?_
  obtain ⟨p, hp, rfl⟩ := List.mem_map.1 hf
  show (Field.ofPair (p.1, "")).isNamed name = false
  rw [hn p hp, hother]

end Message

/-! ### Drafts -/

namespace Draft

open Message (Lists listValue)

/-- The draft from `f` to `ts`, with copies to `cs` and hidden copies to `bs`. -/
def ofEnvelope (f : Address) (ts cs bs : List Address) (subject body : String) : Draft :=
  let d := ts.foldl (fun d t => d.addTo t.text) (({} : Draft).setSender f.text)
  let d := (cs.foldl (fun d c => d.addCc c.text) d).setSubject subject
  (bs.foldl (fun d b => d.addHeader "Bcc" b.text) d).setBody body

theorem foldl_addTo (ts : List Address) (d : Draft) :
    ts.foldl (fun d t => d.addTo t.text) d =
      { d with recipients := d.recipients ++ ts.map (·.text) } := by
  induction ts generalizing d with
  | nil => simp
  | cons t ts ih => rw [List.foldl_cons, ih, addTo, List.append_assoc]; rfl

theorem foldl_addCc (cs : List Address) (d : Draft) :
    cs.foldl (fun d c => d.addCc c.text) d =
      { d with copyRecipients := d.copyRecipients ++ cs.map (·.text) } := by
  induction cs generalizing d with
  | nil => simp
  | cons c cs ih => rw [List.foldl_cons, ih, addCc, List.append_assoc]; rfl

theorem foldl_addHeader (name : String) (bs : List Address) (d : Draft) :
    bs.foldl (fun d b => d.addHeader name b.text) d =
      { d with headers := d.headers ++ bs.map fun b => (name, b.text) } := by
  induction bs generalizing d with
  | nil => simp
  | cons b bs ih => rw [List.foldl_cons, ih, addHeader, List.append_assoc]; rfl

theorem ofEnvelope_eq (f : Address) (ts cs bs : List Address) (subject body : String) :
    ofEnvelope f ts cs bs subject body =
      { sender := some f.text
        recipients := ts.map (·.text)
        copyRecipients := cs.map (·.text)
        subject := some subject
        headers := bs.map fun b => ("Bcc", b.text)
        body := some body } := by
  simp [ofEnvelope, foldl_addTo, foldl_addCc, foldl_addHeader, setSender, setSubject, setBody]

/-! ### The fields of a draft -/

/-- The field that lists addresses, if there are any. -/
def listFields (name : String) (as : List Address) : List (String × String) :=
  if as.isEmpty then [] else [(name, listValue as)]

/-- The fields that every draft ends with. -/
def formatFields : List (String × String) :=
  [("MIME-Version", "1.0"), ("Content-Type", "text/plain; charset=utf-8"),
    ("Content-Transfer-Encoding", "8bit")]

/-- The fields of a draft: name and value, in order. -/
def fields (f : Address) (ts cs bs : List Address) (subject : String) : List (String × String) :=
  listFields "From" [f] ++ listFields "To" ts ++ listFields "Cc" cs ++ [("Subject", subject)] ++
    bs.flatMap (fun b => listFields "Bcc" [b]) ++ formatFields

variable {f : Address} {ts cs bs as : List Address} {subject body name n : String}

theorem listFields_singleton (n : String) (a : Address) : listFields n [a] = [(n, a.text)] := by
  simp [listFields, listValue]

theorem join_listFields (n : String) (as : List Address) :
    String.join ((listFields n as).map fun f => fieldLine f.1 f.2) =
      listLine n (as.map (·.text)) := by
  cases as with
  | nil => rfl
  | cons a as => simp [listFields, listLine, listValue, String.join_cons]

/-- The message of a draft: its fields one a line, an empty line, and the body. -/
theorem text_ofEnvelope (f : Address) (ts cs bs : List Address) (subject body : String) :
    (ofEnvelope f ts cs bs subject body).text =
      String.join ((fields f ts cs bs subject).map fun f => fieldLine f.1 f.2) ++
        ("\r\n" ++ body) := by
  have hhidden : bs.flatMap (fun b => listFields "Bcc" [b]) = bs.map fun b => ("Bcc", b.text) := by
    simp only [listFields_singleton, List.map_eq_flatMap]
  rw [ofEnvelope_eq, text, fields, hhidden, listFields_singleton]
  simp [String.join_append, String.join_cons, join_listFields, optionalLine, formatFields, line,
    String.append_assoc]

theorem bytes_ofEnvelope (f : Address) (ts cs bs : List Address) (subject body : String) :
    (ofEnvelope f ts cs bs subject body).message.bytes =
      ((fields f ts cs bs subject).map fieldOctets).flatMap (· ++ [13, 10]) ++
        13 :: 10 :: Text.Utf8.encode body.toList := by
  have hcrlf : Text.Utf8.encode "\r\n".toList = [13, 10] := by decide
  simp only [message, Message.ofText]
  rw [text_ofEnvelope, String.toList_append, String.toList_append, Text.Utf8.encode_append,
    Text.Utf8.encode_append, DeliveryReport.encode_join_fieldLines, hcrlf]
  rfl

theorem isLine_listValue (h : ∀ a ∈ as, a.IsSimple) : IsLine (listValue as) := by
  have hblank : ∀ c ∈ (listValue as).toList, c ≠ '\r' ∧ c ≠ '\n' := by
    rw [Message.toList_listValue]
    refine AddressList.forall_mem_listText (fun s hs c hc => ?_) (by decide) (by decide)
    obtain ⟨a, ha, rfl⟩ := List.mem_map.1 hs
    have hink := ((h a ha).isMailboxText.chars c hc).not_blank
    constructor
    · rintro rfl
      exact absurd hink (by decide)
    · rintro rfl
      exact absurd hink (by decide)
  exact ⟨fun h => (hblank _ h).1 rfl, fun h => (hblank _ h).2 rfl⟩

theorem name_of_mem_listFields {p : String × String} (hp : p ∈ listFields n as) : p.1 = n := by
  unfold listFields at hp
  split at hp
  · cases hp
  · rw [List.mem_singleton.1 hp]

theorem forall_listFields (hn : Field.IsName n) (h : ∀ a ∈ as, a.IsSimple) :
    ∀ p ∈ listFields n as, Field.IsName p.1 ∧ IsLine p.2 := by
  intro p hp
  unfold listFields at hp
  split at hp
  · cases hp
  · rw [List.mem_singleton.1 hp]
    exact ⟨hn, isLine_listValue h⟩

/-- Every field of a draft stands on a line of its own. -/
theorem forall_fields (hsimple : ∀ a ∈ f :: (ts ++ cs ++ bs), a.IsSimple)
    (hsubject : IsLine subject) :
    ∀ p ∈ fields f ts cs bs subject, Field.IsName p.1 ∧ IsLine p.2 := by
  simp only [List.forall_mem_cons, List.forall_mem_append] at hsimple
  obtain ⟨hf, ⟨hts, hcs⟩, hbs⟩ := hsimple
  simp only [fields, List.forall_mem_append, List.forall_mem_singleton]
  refine ⟨⟨⟨⟨⟨?_, ?_⟩, ?_⟩, by decide, hsubject⟩, ?_⟩, by decide⟩
  · exact forall_listFields (by decide) (List.forall_mem_singleton.2 hf)
  · exact forall_listFields (by decide) hts
  · exact forall_listFields (by decide) hcs
  · intro p hp
    obtain ⟨b, hb, hp⟩ := List.mem_flatMap.1 hp
    exact forall_listFields (by decide) (List.forall_mem_singleton.2 (hbs b hb)) p hp

theorem fields_message (hsimple : ∀ a ∈ f :: (ts ++ cs ++ bs), a.IsSimple)
    (hsubject : IsLine subject) :
    (ofEnvelope f ts cs bs subject body).message.fields =
      .ok ((fields f ts cs bs subject).map Field.ofPair) := by
  refine Message.fields_of_lines ?_ (forall_fields hsimple hsubject)
    (bytes_ofEnvelope f ts cs bs subject body)
  simp [fields, formatFields]

/-! ### The envelope of a draft -/

theorem lists_listFields (hname : (Field.ofPair (n, "")).isNamed name = true)
    (hsimple : ∀ a ∈ as, a.IsSimple)
    (hshort : ∀ a ∈ as, octetCount a.text.toList ≤ Address.maxPathOctets) :
    Lists name ((listFields n as).map Field.ofPair) as := by
  cases as with
  | nil => exact Message.lists_of_other nofun
  | cons a as =>
    refine Message.lists_singleton hname ?_
    rw [Message.fieldAddresses_list n (List.cons_ne_nil a as) hsimple,
      Message.mapM_readBack_of_short hshort]

theorem lists_hidden (hsimple : ∀ b ∈ bs, b.IsSimple)
    (hshort : ∀ b ∈ bs, octetCount b.text.toList ≤ Address.maxPathOctets) :
    Lists "Bcc" ((bs.flatMap fun b => listFields "Bcc" [b]).map Field.ofPair) bs := by
  induction bs with
  | nil => exact Message.lists_of_other nofun
  | cons b bs ih =>
    obtain ⟨hb, hsimple⟩ := List.forall_mem_cons.1 hsimple
    obtain ⟨hb', hshort⟩ := List.forall_mem_cons.1 hshort
    rw [List.flatMap_cons, List.map_append]
    exact (lists_listFields rfl (List.forall_mem_singleton.2 hb)
      (List.forall_mem_singleton.2 hb')).append (ih hsimple hshort)

/-- What the fields of a draft list under a name, from what its parts list. -/
theorem lists_fields {authors recipients copies hidden : List Address}
    (hfrom : Lists name ((listFields "From" [f]).map Field.ofPair) authors)
    (hto : Lists name ((listFields "To" ts).map Field.ofPair) recipients)
    (hcc : Lists name ((listFields "Cc" cs).map Field.ofPair) copies)
    (hbcc : Lists name ((bs.flatMap fun b => listFields "Bcc" [b]).map Field.ofPair) hidden)
    (hother : ∀ n ∈ "Subject" :: formatFields.map (·.1),
      (Field.ofPair (n, "")).isNamed name = false) :
    Lists name ((fields f ts cs bs subject).map Field.ofPair)
      (authors ++ recipients ++ copies ++ hidden) := by
  have hsubject : Lists name ([("Subject", subject)].map Field.ofPair) [] :=
    Message.lists_of_name (by simp) (hother _ List.mem_cons_self)
  have hformat : Lists name (formatFields.map Field.ofPair) [] := by
    refine Message.lists_of_other fun f hf => ?_
    obtain ⟨p, hp, rfl⟩ := List.mem_map.1 hf
    exact hother p.1 (List.mem_cons_of_mem _ (List.mem_map_of_mem hp))
  have hall := ((((hfrom.append hto).append hcc).append hsubject).append hbcc).append hformat
  rw [List.append_nil, List.append_nil] at hall
  simpa only [fields, List.map_append] using hall

/-- Fields of one name list nothing under another. -/
theorem lists_other (hother : (Field.ofPair (n, "")).isNamed name = false) :
    Lists name ((listFields n as).map Field.ofPair) [] :=
  Message.lists_of_name (fun _ hp => name_of_mem_listFields hp) hother

theorem lists_hidden_other (hother : (Field.ofPair ("Bcc", "")).isNamed name = false) :
    Lists name ((bs.flatMap fun b => listFields "Bcc" [b]).map Field.ofPair) [] := by
  refine Message.lists_of_name (fun p hp => ?_) hother
  obtain ⟨b, _, hp⟩ := List.mem_flatMap.1 hp
  exact name_of_mem_listFields hp

/-- The envelope of a draft is read from its message, if its addresses are short enough for that. -/
theorem envelopeOf_ofEnvelope (hsimple : ∀ a ∈ f :: (ts ++ cs ++ bs), a.IsSimple)
    (hshort : ∀ a ∈ f :: (ts ++ cs ++ bs), octetCount a.text.toList ≤ Address.maxPathOctets)
    (hsubject : IsLine subject) :
    RoutingContext.envelopeOf (ofEnvelope f ts cs bs subject body).message =
      .ok (f, ts ++ cs ++ bs) := by
  obtain ⟨m, hm⟩ : ∃ m, m = (ofEnvelope f ts cs bs subject body).message := ⟨_, rfl⟩
  have hfields : m.fields = .ok ((fields f ts cs bs subject).map Field.ofPair) :=
    hm ▸ fields_message hsimple hsubject
  simp only [List.forall_mem_cons, List.forall_mem_append] at hsimple hshort
  obtain ⟨hf, ⟨hts, hcs⟩, hbs⟩ := hsimple
  obtain ⟨hf', ⟨hts', hcs'⟩, hbs'⟩ := hshort
  have hfrom : m.addresses "From" = .ok ([f] ++ [] ++ [] ++ []) :=
    (lists_fields (lists_listFields rfl (List.forall_mem_singleton.2 hf)
      (List.forall_mem_singleton.2 hf')) (lists_other rfl) (lists_other rfl)
      (lists_hidden_other rfl) (by decide)).addresses_eq hfields
  have hto : m.addresses "To" = .ok ([] ++ ts ++ [] ++ []) :=
    (lists_fields (lists_other rfl) (lists_listFields rfl hts hts') (lists_other rfl)
      (lists_hidden_other rfl) (by decide)).addresses_eq hfields
  have hcc : m.addresses "Cc" = .ok ([] ++ [] ++ cs ++ []) :=
    (lists_fields (lists_other rfl) (lists_other rfl) (lists_listFields rfl hcs hcs')
      (lists_hidden_other rfl) (by decide)).addresses_eq hfields
  have hbcc : m.addresses "Bcc" = .ok ([] ++ [] ++ [] ++ bs) :=
    (lists_fields (lists_other rfl) (lists_other rfl) (lists_other rfl) (lists_hidden hbs hbs')
      (by decide)).addresses_eq hfields
  rw [← hm, RoutingContext.envelopeOf, hfrom]
  show (m.addresses "To" >>= fun recipients => m.addresses "Cc" >>= fun copies =>
    m.addresses "Bcc" >>= fun hidden => pure (f, recipients ++ copies ++ hidden)) = _
  rw [hto, hcc, hbcc, List.append_nil, List.append_nil, List.append_nil]
  rfl

/-- An author whose address is too long to be read keeps the message without an envelope. -/
theorem envelopeOf_of_long_author (hsimple : ∀ a ∈ f :: (ts ++ cs ++ bs), a.IsSimple)
    (hlong : Address.maxPathOctets < octetCount f.text.toList) (hsubject : IsLine subject) :
    RoutingContext.envelopeOf (ofEnvelope f ts cs bs subject body).message =
      .error (.invalidAddress "From" .pathTooLong) := by
  have hfield : Message.fieldAddresses "From" (Field.ofPair ("From", listValue [f])) =
      .error (.invalidAddress "From" .pathTooLong) := by
    rw [Message.fieldAddresses_list "From" (List.cons_ne_nil f [])
      (List.forall_mem_singleton.2 (hsimple f List.mem_cons_self)), List.mapM_cons,
      Message.readBack_of_long hlong]
    rfl
  have hname : (Field.ofPair ("From", "")).isNamed "From" = true := rfl
  have hfrom : (ofEnvelope f ts cs bs subject body).message.addresses "From" =
      .error (.invalidAddress "From" .pathTooLong) :=
    Message.addresses_eq_error (fields_message hsimple hsubject) hname hfield
  rw [RoutingContext.envelopeOf, hfrom]
  rfl

end Draft

/-! ### Sending a draft -/

namespace RoutingContext

variable {σ : Type} {c : RoutingContext} {h : Handler σ} {s : σ} {message : Message}

/-- Sending the message calls the spool once, to take at once a mail in the first state, from
`sender` to `recipients`, with the message as it is; and what the spool answers is the answer. -/
def SendsAs (c : RoutingContext) (h : Handler σ) (s : σ) (message : Message) (sender : Address)
    (recipients : List Address) : Prop :=
  ∃ mail answer, calls ((c.sendMessage message).trace h s) = [⟨⟨c.spool, mail, none⟩, answer⟩] ∧
    (c.sendMessage message).result h s = answer.mapError .queue ∧
      mail.sender = .mailbox sender ∧ mail.recipients = recipients ∧ mail.state = .root ∧
        mail.message = message

theorem sendsAs_of_envelopeOf {sender : Address} {recipients : List Address}
    (henvelope : envelopeOf message = .ok (sender, recipients)) :
    c.SendsAs h s message sender recipients := by
  have hends := Routine.ends_trace_result h (c.sendMessage message) s
  have hsend : c.sendMessage message =
      c.sendMessageToWithState (.mailbox sender) recipients message .root := by
    rw [sendMessage, henvelope]
  rw [hsend] at hends
  obtain ⟨id, answer, hanswer, hcalls⟩ := calls_of_ends_sendMessageToWithState hends
  rw [← hsend] at hanswer hcalls
  exact ⟨_, answer, hcalls, hanswer, rfl, rfl, rfl, rfl⟩

/-- A message without an envelope is not sent. -/
theorem not_sendsAs_of_envelopeOf {e : MessageError} (henvelope : envelopeOf message = .error e)
    (sender : Address) (recipients : List Address) :
    ¬c.SendsAs h s message sender recipients := by
  have hsend : c.sendMessage message = pure (.error (.unreadable e)) := by
    rw [sendMessage, henvelope]
  rintro ⟨mail, answer, hcalls, -⟩
  rw [hsend] at hcalls
  cases hcalls

/-- **A draft is sent in the envelope that it was made for.** For an author, recipients, copies and
hidden copies with dot-strings and domain names, none of them longer than a path may be, a subject
on one line and any body, the message of the draft is sent once and at once, from the author to all
of the others in order, those that come twice twice, with the octets of the draft. -/
theorem sendMessage_ofEnvelope (c : RoutingContext) (h : Handler σ) (s : σ) {f : Address}
    {ts cs bs : List Address} {subject : String} (body : String)
    (hsimple : ∀ a ∈ f :: (ts ++ cs ++ bs), a.IsSimple)
    (hshort : ∀ a ∈ f :: (ts ++ cs ++ bs), octetCount a.text.toList ≤ Address.maxPathOctets)
    (hsubject : IsLine subject) :
    c.SendsAs h s (Draft.ofEnvelope f ts cs bs subject body).message f (ts ++ cs ++ bs) := by
  have henvelope : envelopeOf (Draft.ofEnvelope f ts cs bs subject body).message =
      .ok (f, ts ++ cs ++ bs) :=
    Draft.envelopeOf_ofEnvelope hsimple hshort hsubject
  exact sendsAs_of_envelopeOf henvelope

/-- An author of the default domain. -/
def ann : Address := ⟨"ann", .localhost, by rfl⟩

/-- A context with nothing configured, that ann looks after. -/
def plainContext : RoutingContext := ⟨{}, ann⟩

/-- A recipient whose local part has the form of an encoded word. -/
def wordly : Address := ⟨"=?utf-8?q?a?=", ⟨"remote.example", by rfl, by rfl⟩, by rfl⟩

theorem sendMessage_ofEnvelope_ann :
    (∀ a ∈ ann :: ([wordly, ann, wordly] ++ [ann] ++ [wordly]), a.IsSimple) ∧
      (∀ a ∈ ann :: ([wordly, ann, wordly] ++ [ann] ++ [wordly]),
        octetCount a.text.toList ≤ Address.maxPathOctets) ∧
      IsLine "To: x@y" ∧
      plainContext.SendsAs Site.handler {}
        (Draft.ofEnvelope ann [wordly, ann, wordly] [ann] [wordly] "To: x@y"
          "\r\n\r\nTo: x@y\r\n").message
        ann [wordly, ann, wordly, ann, wordly] := by
  have hann : ann.IsSimple := ⟨by decide, by rfl⟩
  have hwordly : wordly.IsSimple := ⟨by decide, by rfl⟩
  have hsimple : ∀ a ∈ ann :: ([wordly, ann, wordly] ++ [ann] ++ [wordly]), a.IsSimple := by
    simp [hann, hwordly]
  have hshort : ∀ a ∈ ann :: ([wordly, ann, wordly] ++ [ann] ++ [wordly]),
      octetCount a.text.toList ≤ Address.maxPathOctets := by decide
  have hsubject : IsLine "To: x@y" := by decide
  exact ⟨hsimple, hshort, hsubject,
    sendMessage_ofEnvelope plainContext Site.handler {} "\r\n\r\nTo: x@y\r\n" hsimple hshort
      hsubject⟩

/-- A domain of the most octets that a domain may have. -/
def longDomain : Domain where
  text := String.ofList (List.replicate 255 'a')
  valid := by rw [String.toList_ofList]; decide +kernel
  lower := by rw [String.toList_ofList]; decide +kernel

/-- An address that is longer than a path may be, put together from parts that are not too long. -/
def longAddress : Address := ⟨"a", longDomain, by rfl⟩

theorem toList_longDomain : longDomain.text.toList = List.replicate 255 'a' :=
  String.toList_ofList

theorem octetCount_longAddress : octetCount longAddress.text.toList = 257 := by
  have htext : longAddress.text.toList = "a@".toList ++ List.replicate 255 'a' := by
    show ("a@" ++ longDomain.text).toList = _
    rw [String.toList_append, toList_longDomain]
  have hascii : ∀ c ∈ List.replicate 255 'a', c.toNat < 128 := by
    intro c hc
    rw [List.eq_of_mem_replicate hc]
    decide
  rw [htext, Text.octetCount_append, Text.octetCount_of_ascii hascii, List.length_replicate]
  rfl

/-- Its own display form is no address, so that a draft from it is not sent. -/
theorem not_sendsAs_longAddress :
    Address.ofParts "a" longDomain = .ok longAddress ∧ longAddress.IsSimple ∧ IsLine "" ∧
      ¬plainContext.SendsAs Site.handler {}
        (Draft.ofEnvelope longAddress [] [] [] "" "").message longAddress ([] ++ [] ++ []) := by
  have hsimple : longAddress.IsSimple := by
    refine ⟨by decide, ?_⟩
    show (longDomain.text.toList.head? == some '[') = false
    rw [toList_longDomain, List.head?_replicate]
    decide
  have hlong : Address.maxPathOctets < octetCount longAddress.text.toList := by
    rw [octetCount_longAddress]
    decide
  have henvelope : envelopeOf (Draft.ofEnvelope longAddress [] [] [] "" "").message =
      .error (.invalidAddress "From" .pathTooLong) :=
    Draft.envelopeOf_of_long_author (List.forall_mem_singleton.2 hsimple) hlong (by decide)
  exact ⟨Address.ofParts_localPart_domain longAddress, hsimple, by decide,
    not_sendsAs_of_envelopeOf henvelope longAddress _⟩

end RoutingContext

end MailRouting
