import MailRouting.Proofs.DeliveryReport.QuotedFields
import MailRouting.Proofs.Message.Fields
import MailRouting.Proofs.Text.Occurrences

/-!
# The parts of a delivery report

A reader finds the parts of a report at its delimiters: a line end, two dashes and the boundary. The
texts that are put into a report may hold line ends, dashes, blank lines and most of a delimiter,
also where they end and something else goes on. Only the boundary itself must not be in them.

* `DeliveryReport.delimiter`, `Undelimited` — the delimiter, and texts that hold none, not even with
  a line end before them;
* `undelimited_fieldLine_append`, `undelimited_line_append` — lines put before such a text;
* `Inserted` — the texts that are put into a report;
* `pieces`, `toList_text` — a report is its pieces with delimiters between them;
* `forall_pieces_lack_delimiter` — no piece holds a delimiter;
* `report_splits_back` — so cutting the report at its delimiters gives the pieces, and the contents
  of the parts as they were put in.
-/

namespace MailRouting

theorem Ulid.mem_alphabet_of_mem_text {id : Ulid} {c : Char} (h : c ∈ id.text.toList) :
    c ∈ alphabet := by
  unfold text at h
  rw [String.toList_ofList] at h
  by_contra hnot
  exact not_mem_signs hnot _ _ h

/-- The text of a header section has the octets that it was read from. -/
theorem Message.encode_of_headerBlock {m : Message} {block : List Char}
    (h : m.headerBlock = .ok block) :
    Text.Utf8.encode block = m.headerBytes := by
  unfold headerBlock at h
  cases hdecode : Text.Utf8.decode m.headerBytes with
  | error e =>
    rw [hdecode] at h
    cases h
  | ok s =>
    rw [hdecode] at h
    cases h
    exact Text.Utf8.decode_eq_ok_iff.1 hdecode

namespace DeliveryReport

open Message (line fieldLine)
open Text (IsLine)

/-! ### The delimiter -/

/-- What a part of a report starts with: a line end, two dashes and the boundary. -/
def delimiter (id : Ulid) : List Char :=
  '\r' :: '\n' :: '-' :: '-' :: (boundary id).toList

variable {id : Ulid} {c : Char}

/-- A sign of the delimiter is one of those that are always there, or one of an identifier. -/
theorem mem_of_mem_delimiter (hc : c ∈ delimiter id) :
    c ∈ "\r\n------=_Part_".toList ∨ c ∈ Ulid.alphabet := by
  have hsplit : delimiter id = "\r\n------=_Part_".toList ++ id.text.toList := by
    simp [delimiter, boundary]
  rw [hsplit, List.mem_append] at hc
  exact hc.imp_right Ulid.mem_alphabet_of_mem_text

theorem delimiter_ne_nil (id : Ulid) : delimiter id ≠ [] :=
  List.cons_ne_nil _ _

theorem mem_delimiter_equals (id : Ulid) : '=' ∈ delimiter id := by
  simp [delimiter, boundary]

/-- The carriage return stands at the front of the delimiter and nowhere else in it. -/
theorem return_not_mem_tail (id : Ulid) : '\r' ∉ (delimiter id).tail := by
  have hboundary : '\r' ∉ (boundary id).toList := (isLine_boundary id).1
  simpa [delimiter] using hboundary

theorem delimiter_ascii (id : Ulid) : ∀ c ∈ delimiter id, c.val.toNat ≤ 0x7f := by
  have hmarks : "\r\n------=_Part_".toList.all (·.val.toNat ≤ 0x7f) = true := by decide
  have hsigns : Ulid.alphabet.all (·.val.toNat ≤ 0x7f) = true := by decide
  intro c hc
  rcases mem_of_mem_delimiter hc with h | h
  · exact of_decide_eq_true (List.all_eq_true.1 hmarks c h)
  · exact of_decide_eq_true (List.all_eq_true.1 hsigns c h)

/-! ### Texts without a delimiter -/

/-- No delimiter lies in the text, and none starts with a line end before it. -/
def Undelimited (id : Ulid) (s : String) : Prop :=
  ¬delimiter id <:+: '\r' :: '\n' :: s.toList

variable {s t name value rest : String}

theorem Undelimited.lacks_delimiter (h : Undelimited id s) : ¬delimiter id <:+: s.toList :=
  fun hs => h (hs.trans (List.suffix_append ['\r', '\n'] s.toList).isInfix)

/-- A text that does not name the boundary holds no delimiter. -/
theorem undelimited_of_not_boundary (h : ¬(boundary id).toList <:+: s.toList) :
    Undelimited id s := by
  intro hs
  have hboundary : (boundary id).toList <:+ delimiter id :=
    List.suffix_append ['\r', '\n', '-', '-'] _
  rcases List.infix_cons_iff.1 hs with hs | hs
  · obtain ⟨_, hs⟩ := List.cons_prefix_cons.1 hs
    obtain ⟨_, hs⟩ := List.cons_prefix_cons.1 hs
    have htail : (boundary id).toList <:+ '-' :: '-' :: (boundary id).toList :=
      List.suffix_append ['-', '-'] _
    exact h (htail.isInfix.trans hs.isInfix)
  · have hs' : delimiter id <:+: s.toList :=
      (Text.infix_append_iff_of_not_mem (x := ['\n']) (by decide)).1 hs
    exact h (hboundary.isInfix.trans hs')

/-- A text without an equals sign holds no delimiter. -/
theorem undelimited_of_not_mem (h : '=' ∉ s.toList) : Undelimited id s := by
  intro hs
  have hmem : '=' ∈ '\r' :: '\n' :: s.toList := hs.subset (mem_delimiter_equals id)
  simp only [List.mem_cons] at hmem
  rcases hmem with hmem | hmem | hmem
  · exact absurd hmem (by decide)
  · exact absurd hmem (by decide)
  · exact h hmem

theorem not_infix_of_isLine (h : IsLine s) : ¬delimiter id <:+: s.toList :=
  fun hs => h.1 (hs.subset List.mem_cons_self)

/-- What is put before a text does not start a delimiter if it holds no carriage return. -/
theorem not_infix_append (hs : '\r' ∉ s.toList) (ht : ¬delimiter id <:+: t.toList) :
    ¬delimiter id <:+: (s ++ t).toList := by
  rw [String.toList_append]
  exact fun h => ht ((Text.infix_append_iff_of_not_mem hs).1 h)

/-- A sign that is not in the delimiter keeps what comes before it and behind it apart. -/
theorem not_infix_append_mark_append {mark : String} (hmark : mark.toList = [c])
    (hc : c ∉ delimiter id) (hs : ¬delimiter id <:+: s.toList) (ht : ¬delimiter id <:+: t.toList) :
    ¬delimiter id <:+: (s ++ mark ++ t).toList := by
  have htext : (s ++ mark ++ t).toList = s.toList ++ c :: t.toList := by
    rw [String.toList_append, String.toList_append, hmark, List.append_assoc, List.singleton_append]
  rw [htext, Text.infix_append_cons_iff_of_not_mem hc (delimiter_ne_nil id), not_or]
  exact ⟨hs, ht⟩

theorem not_infix_append_mark {mark : String} (hmark : mark.toList = [c]) (hc : c ∉ delimiter id)
    (hs : ¬delimiter id <:+: s.toList) : ¬delimiter id <:+: (s ++ mark).toList := by
  have hempty : ¬delimiter id <:+: "".toList := not_infix_of_isLine (by decide)
  have happend := not_infix_append_mark_append hmark hc hs hempty
  rwa [String.append_empty] at happend

/-- A line of a field, with something behind it. -/
theorem undelimited_fieldLine_append (hname : '=' ∉ name.toList)
    (hvalue : ¬delimiter id <:+: value.toList) (hrest : Undelimited id rest) :
    Undelimited id (fieldLine name value ++ rest) := by
  have hcolon : ':' ∉ delimiter id :=
    fun h => absurd (mem_of_mem_delimiter h) (by decide)
  have hspace : ' ' ∉ delimiter id :=
    fun h => absurd (mem_of_mem_delimiter h) (by decide)
  have htext : '\r' :: '\n' :: (fieldLine name value ++ rest).toList =
      ('\r' :: '\n' :: name.toList) ++ ':' ::
        ([] ++ ' ' :: (value.toList ++ '\r' :: '\n' :: rest.toList)) := by
    simp [fieldLine, line]
  unfold Undelimited
  rw [htext, Text.infix_append_cons_iff_of_not_mem hcolon (delimiter_ne_nil id),
    Text.infix_append_cons_iff_of_not_mem hspace (delimiter_ne_nil id),
    Text.infix_append_cons_iff (return_not_mem_tail id), not_or, not_or, not_or]
  exact ⟨undelimited_of_not_mem hname, fun h => delimiter_ne_nil id (List.infix_nil.1 h), hvalue,
    hrest⟩

/-- An empty line, with something behind it. -/
theorem undelimited_line_append (hrest : Undelimited id rest) :
    Undelimited id (line "" ++ rest) := by
  have htext : '\r' :: '\n' :: (line "" ++ rest).toList =
      ['\r', '\n'] ++ '\r' :: '\n' :: rest.toList := by
    simp [line]
  have hempty : ¬delimiter id <:+: ['\r', '\n'] := undelimited_of_not_mem (s := "") (by decide)
  unfold Undelimited
  rw [htext, Text.infix_append_cons_iff (return_not_mem_tail id), not_or]
  exact ⟨hempty, hrest⟩

theorem undelimited_fieldLines_append {fields : List (String × String)}
    (hfields : ∀ f ∈ fields, '=' ∉ f.1.toList ∧ ¬delimiter id <:+: f.2.toList)
    (hrest : Undelimited id rest) :
    Undelimited id (String.join (fields.map fun f => fieldLine f.1 f.2) ++ rest) := by
  induction fields with
  | nil => simpa [String.join_nil] using hrest
  | cons f fields ih =>
    obtain ⟨⟨hname, hvalue⟩, hfields⟩ := List.forall_mem_cons.1 hfields
    rw [List.map_cons, String.join_cons, String.append_assoc]
    exact undelimited_fieldLine_append hname hvalue (ih hfields)

/-! ### What is put into a report -/

/-- The texts that come from the failed mail, from whoever sends it back and from the settings. -/
inductive Inserted (failed : Mail) (sender bouncer : Address) (explanation host : String) :
    String → Prop
  | subject (s : String) (h : failed.message.subject = .ok (some s)) :
    Inserted failed sender bouncer explanation host s
  | failedId (s : String) (h : failed.message.header "Message-ID" = .ok (some s)) :
    Inserted failed sender bouncer explanation host s
  | name : Inserted failed sender bouncer explanation host failed.name
  | host : Inserted failed sender bouncer explanation host host
  | sender : Inserted failed sender bouncer explanation host sender.text
  | bouncer : Inserted failed sender bouncer explanation host bouncer.text
  | recipient (a : Address) (h : a ∈ failed.recipients) :
    Inserted failed sender bouncer explanation host a.text
  | explanation : Inserted failed sender bouncer explanation host explanation
  | headers (block : List Char) (h : failed.message.headerBlock = .ok block) :
    Inserted failed sender bouncer explanation host (String.ofList block)

variable {failed : Mail} {sender bouncer : Address} {explanation host : String}
  {r : DeliveryReport}

/-- The fields of a report hold no delimiter, and neither do their names. -/
theorem forall_headerFields_undelimited
    (h : ofMail failed sender explanation bouncer host = .ok r)
    (hinserted : ∀ s, Inserted failed sender bouncer explanation host s → Undelimited id s)
    (date : Timestamp) :
    ∀ f ∈ r.headerFields id date, '=' ∉ f.1.toList ∧ ¬delimiter id <:+: f.2.toList := by
  obtain ⟨headers, subject, failedId, hheaders, hsubject, hfailedId, rfl⟩ := ofMail_eq_ok_iff.1 h
  have htype : IsLine ("multipart/report; report-type=\"delivery-status\"; boundary=\"" ++
      boundary id ++ "\"") := by
    simp only [Text.isLine_append, isLine_boundary, and_true]
    decide
  have hclose : '>' ∉ delimiter id := fun h => absurd (mem_of_mem_delimiter h) (by decide)
  have hat : '@' ∉ delimiter id := fun h => absurd (mem_of_mem_delimiter h) (by decide)
  have hfrom : ¬delimiter id <:+: ("Mail Delivery System <" ++ bouncer.text ++ ">").toList := by
    exact not_infix_append_mark rfl hclose
      (not_infix_append (by decide) (hinserted _ .bouncer).lacks_delimiter)
  have hid :
      ¬delimiter id <:+: ("<" ++ (nameStart ++ failed.name) ++ "@" ++ host ++ ">").toList := by
    have hname : ¬delimiter id <:+: ("<" ++ (nameStart ++ failed.name)).toList :=
      not_infix_append (by decide)
        (not_infix_append (by decide) (hinserted _ .name).lacks_delimiter)
    exact not_infix_append_mark rfl hclose
      (not_infix_append_mark_append rfl hat hname (hinserted _ .host).lacks_delimiter)
  have hsubject' : ¬delimiter id <:+: (subject.elim defaultSubject ("Re: " ++ ·)).toList := by
    cases subject with
    | none => exact not_infix_of_isLine (by decide)
    | some subject =>
      exact not_infix_append (by decide) (hinserted _ (.subject subject hsubject)).lacks_delimiter
  have hfield {name value : String} (hname : '=' ∉ name.toList)
      (hvalue : ¬delimiter id <:+: value.toList) :
      '=' ∉ (name, value).1.toList ∧ ¬delimiter id <:+: (name, value).2.toList := ⟨hname, hvalue⟩
  intro f hf
  simp only [headerFields, List.mem_append, List.mem_cons, List.not_mem_nil, or_false,
    Option.mem_toList, Option.map_eq_some_iff] at hf
  rcases hf with ((rfl | rfl | rfl | rfl | rfl | rfl | rfl) | ⟨value, rfl, rfl⟩) | rfl
  · exact hfield (by decide) (not_infix_of_isLine htype)
  · exact hfield (by decide) (not_infix_of_isLine (by decide))
  · exact hfield (by decide) hfrom
  · exact hfield (by decide) (hinserted _ .sender).lacks_delimiter
  · exact hfield (by decide) hsubject'
  · exact hfield (by decide) (not_infix_of_isLine date.isLine_mailDate)
  · exact hfield (by decide) hid
  · exact hfield (by decide) (hinserted _ (.failedId value hfailedId)).lacks_delimiter
  · exact hfield (by decide) (not_infix_of_isLine (by decide))

/-- The status of the delivery holds no delimiter. -/
theorem undelimited_status {recipients : List Address} (hhost : Undelimited id host)
    (hrecipients : ∀ a ∈ recipients, Undelimited id a.text) :
    Undelimited id
      (fieldLine "Reporting-MTA" ("dns; " ++ host) ++
        String.join (recipients.map recipientStatus)) := by
  refine undelimited_fieldLine_append (by decide)
    (not_infix_append (by decide) hhost.lacks_delimiter) ?_
  induction recipients with
  | nil =>
    rw [List.map_nil, String.join_nil]
    exact undelimited_of_not_mem (by decide)
  | cons a recipients ih =>
    obtain ⟨ha, hrest⟩ := List.forall_mem_cons.1 hrecipients
    rw [List.map_cons, String.join_cons, recipientStatus, String.append_assoc, String.append_assoc,
      String.append_assoc]
    refine undelimited_line_append (undelimited_fieldLine_append (by decide) ?_ ?_)
    · exact not_infix_append (by decide) ha.lacks_delimiter
    · exact undelimited_fieldLine_append (by decide) (not_infix_of_isLine (by decide))
        (undelimited_fieldLine_append (by decide) (not_infix_of_isLine (by decide)) (ih hrest))

/-! ### The pieces -/

/-- What stands before the first delimiter: the header section, an empty line and a line for readers
that know no parts. -/
def opening (r : DeliveryReport) (id : Ulid) (date : Timestamp) : String :=
  String.join (r.headerLines id date) ++ line "" ++
    line "This is a multi-part message in MIME format."

/-- What stands behind the delimiter that a part starts with, up to the next one. -/
def partText (contentType encoding content : String) : String :=
  line "" ++ fieldLine "Content-Type" contentType ++
    fieldLine "Content-Transfer-Encoding" encoding ++ line "" ++ content

/-- The texts between the delimiters of a report. -/
def pieces (r : DeliveryReport) (id : Ulid) (date : Timestamp) : List String :=
  [r.opening id date, partText "text/plain; charset=utf-8" "8bit" r.explanation,
    partText "message/delivery-status" "7bit" r.status,
    partText "text/rfc822-headers" "8bit" r.failedHeaders, "--\r\n"]

/-- A report is its pieces with delimiters between them. -/
theorem toList_text (r : DeliveryReport) (id : Ulid) (date : Timestamp) :
    (r.text id date).toList =
      List.intercalate (delimiter id) ((r.pieces id date).map String.toList) := by
  simp [text, pieces, parts, part, opening, partText, delimiter, line, List.intercalate_cons_cons,
    String.join_cons, String.join_nil]

theorem not_infix_partText {contentType encoding content : String}
    (hcontentType : IsLine contentType) (hencoding : IsLine encoding)
    (hcontent : Undelimited id content) :
    ¬delimiter id <:+: (partText contentType encoding content).toList := by
  have htext : (partText contentType encoding content).toList =
      '\r' :: '\n' :: (fieldLine "Content-Type" contentType ++
        (fieldLine "Content-Transfer-Encoding" encoding ++ (line "" ++ content))).toList := by
    simp [partText, line]
  rw [htext]
  exact undelimited_fieldLine_append (by decide) (not_infix_of_isLine hcontentType)
    (undelimited_fieldLine_append (by decide) (not_infix_of_isLine hencoding)
      (undelimited_line_append hcontent))

theorem not_infix_opening (h : ofMail failed sender explanation bouncer host = .ok r)
    (hinserted : ∀ s, Inserted failed sender bouncer explanation host s → Undelimited id s)
    (date : Timestamp) : ¬delimiter id <:+: (r.opening id date).toList := by
  have hrest : Undelimited id (line "" ++ line "This is a multi-part message in MIME format.") :=
    undelimited_of_not_mem (by decide)
  rw [opening, join_headerLines, String.append_assoc]
  exact (undelimited_fieldLines_append (forall_headerFields_undelimited h hinserted date)
    hrest).lacks_delimiter

/-- No piece of a report holds a delimiter. -/
theorem forall_pieces_lack_delimiter (h : ofMail failed sender explanation bouncer host = .ok r)
    (hinserted : ∀ s, Inserted failed sender bouncer explanation host s → Undelimited id s)
    (date : Timestamp) : ∀ s ∈ r.pieces id date, ¬delimiter id <:+: s.toList := by
  have hopening := not_infix_opening h hinserted date
  obtain ⟨headers, _, _, hheaders, _, _, rfl⟩ := ofMail_eq_ok_iff.1 h
  have hstatus := undelimited_status (hinserted _ .host) fun a ha => hinserted _ (.recipient a ha)
  intro s hs
  simp only [pieces, List.mem_cons, List.not_mem_nil, or_false] at hs
  rcases hs with rfl | rfl | rfl | rfl | rfl
  · exact hopening
  · exact not_infix_partText (by decide) (by decide) (hinserted _ .explanation)
  · exact not_infix_partText (by decide) (by decide) hstatus
  · exact not_infix_partText (by decide) (by decide) (hinserted _ (.headers headers hheaders))
  · exact (undelimited_of_not_mem (by decide)).lacks_delimiter

/-- The octets of a text. -/
def octets (s : String) : List UInt8 :=
  Text.Utf8.encode s.toList

theorem octets_append (s t : String) : octets (s ++ t) = octets s ++ octets t := by
  rw [octets, String.toList_append, Text.Utf8.encode_append]
  rfl

/-- The fields of a part. -/
def partFields (contentType encoding : String) : List (String × String) :=
  [("Content-Type", contentType), ("Content-Transfer-Encoding", encoding)]

/-- A part starts with an empty line and its fields, and its content comes behind a blank line. -/
theorem octets_partText (contentType encoding content : String) :
    octets (partText contentType encoding content) =
      (13 :: 10 :: List.intercalate [13, 10]
        ((partFields contentType encoding).map fieldOctets)) ++ Message.blankLine ++
        octets content := by
  have hblank : Message.blankLine = octets "\r\n\r\n" := by decide
  have hcrlf : octets "\r\n" = [13, 10] := by decide
  have htext : partText contentType encoding content =
      "\r\n" ++ (fieldText ("Content-Type", contentType) ++ "\r\n" ++
        fieldText ("Content-Transfer-Encoding", encoding)) ++ "\r\n\r\n" ++ content := by
    simp [partText, fieldText, fieldLine, line, String.append_assoc]
  rw [htext]
  simp only [octets_append, hcrlf, ← hblank, partFields, List.map_cons, List.map_nil,
    List.intercalate_cons_cons, List.intercalate_singleton]
  rfl

/-- The fields of a part end at its first blank line. The line end in front of them starts none,
since a field follows it. -/
theorem before_blankLine_partFields {contentType encoding : String}
    (hcontentType : IsLine contentType) (hencoding : IsLine encoding) :
    Text.before Message.blankLine
        ((13 :: 10 :: List.intercalate [13, 10]
          ((partFields contentType encoding).map fieldOctets)) ++ Message.blankLine) =
      some (13 :: 10 :: List.intercalate [13, 10]
        ((partFields contentType encoding).map fieldOctets)) := by
  have hfield {name value : String} (hname : IsLine name) (hvalue : IsLine value) :
      Text.IsOctetLine (fieldOctets (name, value)) ∧ fieldOctets (name, value) ≠ [] :=
    ⟨Text.isOctetLine_encode.2 (isLine_fieldText.2 ⟨hname, hvalue⟩), fieldOctets_ne_nil _⟩
  have hlines : ∀ l ∈ (partFields contentType encoding).map fieldOctets,
      Text.IsOctetLine l ∧ l ≠ [] := by
    simp only [partFields, List.map_cons, List.map_nil, List.forall_mem_cons]
    exact ⟨hfield (by decide) hcontentType, hfield (by decide) hencoding, nofun⟩
  have hne : (partFields contentType encoding).map fieldOctets ≠ [] := by simp [partFields]
  have hjoined : ((partFields contentType encoding).map fieldOctets).flatMap (· ++ [13, 10]) ++
      [13, 10] = List.intercalate [13, 10] ((partFields contentType encoding).map fieldOctets) ++
        Message.blankLine := by
    simp [partFields, Message.blankLine, List.intercalate_cons_cons]
  obtain ⟨rest, hrest⟩ : ∃ rest, List.intercalate [13, 10]
      ((partFields contentType encoding).map fieldOctets) ++ Message.blankLine = 67 :: rest := by
    have hname : octets "Content-Type" = 67 :: octets "ontent-Type" := by decide
    have hfirst : fieldOctets ("Content-Type", contentType) =
        67 :: (octets "ontent-Type" ++ octets ": " ++ octets contentType) := by
      show octets ("Content-Type" ++ ": " ++ contentType) = _
      rw [octets_append, octets_append, hname]
      rfl
    rw [partFields, List.map_cons, List.map_cons, List.intercalate_cons_cons, hfirst]
    exact ⟨_, rfl⟩
  have hcrlf := Text.before_blankLine_crlf (b := 67) (by decide) rest
  rw [← hrest, ← hjoined, Text.before_blankLine hne hlines [], hjoined] at hcrlf
  exact hcrlf

/-- What stands behind the first blank line of a part is its content. -/
theorem after_blankLine_partText {contentType encoding : String} (hcontentType : IsLine contentType)
    (hencoding : IsLine encoding) (content : String) :
    Text.after Message.blankLine (octets (partText contentType encoding content)) =
      some (octets content) := by
  rw [octets_partText]
  exact Text.after_append (before_blankLine_partFields hcontentType hencoding) (octets content)

theorem prefix_partText (contentType encoding content : String) :
    octets (line "" ++ fieldLine "Content-Type" contentType) <+:
      octets (partText contentType encoding content) := by
  rw [partText, String.append_assoc, String.append_assoc, octets_append _ (_ ++ _)]
  exact List.prefix_append _ _

/-! ### The report cut at its delimiters -/

/-- If no piece holds a delimiter, then cutting the report at its delimiters gives the pieces. -/
theorem splitOnMark_bytes_mail (r : DeliveryReport) (id : Ulid) (date : Timestamp)
    (hpieces : ∀ s ∈ r.pieces id date, ¬delimiter id <:+: s.toList) :
    Text.splitOnMark (octets ("\r\n--" ++ boundary id)) (r.mail id date).message.bytes =
      (r.pieces id date).map octets := by
  have hdelimiter : ("\r\n--" ++ boundary id).toList = delimiter id := by
    simp [delimiter]
  have hcons : delimiter id = '\r' :: (delimiter id).tail := rfl
  have hmark : Text.Utf8.encode (delimiter id) = 13 :: Text.Utf8.encode (delimiter id).tail := by
    rw [hcons, Text.Utf8.encode_cons_of_le (by decide)]
    rfl
  have hreturn : 13 ∉ Text.Utf8.encode (delimiter id).tail :=
    mt (Text.Utf8.mem_encode_iff (x := '\r') (by decide)).1 (return_not_mem_tail id)
  have hbytes : (r.mail id date).message.bytes =
      List.intercalate (Text.Utf8.encode (delimiter id)) ((r.pieces id date).map octets) := by
    simp only [mail, Message.ofText]
    rw [toList_text, Message.encode_intercalate, List.map_map]
    rfl
  rw [hbytes, octets, hdelimiter, hmark]
  refine Text.splitOnMark_intercalate hreturn (by simp [pieces]) fun p hp => ?_
  obtain ⟨s, hs, rfl⟩ := List.mem_map.1 hp
  rw [← hmark]
  exact fun hinfix => hpieces s hs (Text.Utf8.infix_of_infix_encode (delimiter_ascii id) hinfix)

/-- **A report splits back into its parts.** If none of the texts that are put into a report names
its boundary, then cutting its octets at every line end followed by two dashes and the boundary
gives five pieces: the header section with a line for readers that know no parts, the three parts,
and the two dashes behind the last boundary. The contents of the parts are the explanation, the
status with a group of fields for every recipient of the failed mail in order, and the octets of the
failed mail's header section, as they were put in. -/
theorem report_splits_back {failed : Mail} {sender bouncer : Address} {explanation host : String}
    {r : DeliveryReport} (h : ofMail failed sender explanation bouncer host = .ok r) (id : Ulid)
    (date : Timestamp)
    (hinserted : ∀ s, Inserted failed sender bouncer explanation host s →
      ¬(boundary id).toList <:+: s.toList) :
    ∃ plain status headers,
      Text.splitOnMark (octets ("\r\n--" ++ boundary id)) (r.mail id date).message.bytes =
        [octets (String.join (r.headerLines id date) ++ line "" ++
            line "This is a multi-part message in MIME format."),
          plain, status, headers, octets "--\r\n"] ∧
      octets (line "" ++ fieldLine "Content-Type" "text/plain; charset=utf-8") <+: plain ∧
      Text.after Message.blankLine plain = some (octets explanation) ∧
      octets (line "" ++ fieldLine "Content-Type" "message/delivery-status") <+: status ∧
      Text.after Message.blankLine status =
        some (octets (fieldLine "Reporting-MTA" ("dns; " ++ host) ++
          String.join (failed.recipients.map recipientStatus))) ∧
      octets (line "" ++ fieldLine "Content-Type" "text/rfc822-headers") <+: headers ∧
      Text.after Message.blankLine headers = some failed.message.headerBytes := by
  have hundelimited : ∀ s, Inserted failed sender bouncer explanation host s → Undelimited id s :=
    fun s hs => undelimited_of_not_boundary (hinserted s hs)
  have hsplit := splitOnMark_bytes_mail r id date (forall_pieces_lack_delimiter h hundelimited date)
  obtain ⟨block, _, _, hblock, _, _, rfl⟩ := ofMail_eq_ok_iff.1 h
  have hheaders : octets (String.ofList block) = failed.message.headerBytes := by
    rw [octets, String.toList_ofList, Message.encode_of_headerBlock hblock]
  refine ⟨_, _, _, hsplit, prefix_partText _ _ _, ?_, prefix_partText _ _ _, ?_,
    prefix_partText _ _ _, ?_⟩
  · exact after_blankLine_partText (by decide) (by decide) _
  · exact after_blankLine_partText (by decide) (by decide) _
  · rw [after_blankLine_partText (by decide) (by decide), hheaders]

/-! ### An explanation that looks like a delimiter -/

/-- A mail to one user twice. -/
def doubledMail : Mail :=
  { ordinaryMail with recipients := [⟨"user", .localhost, rfl⟩, ⟨"user", .localhost, rfl⟩] }

/-- An explanation with dashes, blank lines and all of a delimiter but the identifier. -/
def dashedExplanation : String := "--\r\n\r\n--\r\n------=_Part_"

/-- The report on that mail with that explanation. -/
def doubledReport : DeliveryReport :=
  { ordinaryReport with
    explanation := dashedExplanation
    recipients := [⟨"user", .localhost, rfl⟩, ⟨"user", .localhost, rfl⟩] }

theorem ofMail_doubledMail :
    ofMail doubledMail ⟨"sender", .localhost, rfl⟩ dashedExplanation
      ⟨"postmaster", .localhost, rfl⟩ "localhost" = .ok doubledReport := by
  have hblock : doubledMail.message.headerBlock = _ := headerBlock_ordinaryMail
  rw [ofMail_of_readAll hblock readAll_ordinaryMail, valueOf?_ordinaryFields.1,
    valueOf?_ordinaryFields.2]
  rfl

/-- Every boundary of a report ends with the signs of an identifier, and the texts that are put into
this one have no sign `0`. -/
theorem not_boundary_of_inserted (s : String)
    (hs : Inserted doubledMail ⟨"sender", .localhost, rfl⟩ ⟨"postmaster", .localhost, rfl⟩
      dashedExplanation "localhost" s) : ¬(boundary ⟨0⟩).toList <:+: s.toList := by
  have hzero : '0' ∈ (boundary ⟨0⟩).toList := by decide
  have hblock : doubledMail.message.headerBlock = _ := headerBlock_ordinaryMail
  suffices hnot : '0' ∉ s.toList from fun h => hnot (h.subset hzero)
  cases hs with
  | subject s h =>
    rw [Message.subject, Message.header_of_readAll hblock readAll_ordinaryMail,
      valueOf?_ordinaryFields.1] at h
    cases h
    decide
  | failedId s h =>
    rw [Message.header_of_readAll hblock readAll_ordinaryMail, valueOf?_ordinaryFields.2] at h
    cases h
    decide
  | recipient a h =>
    rcases List.mem_cons.1 h with rfl | h
    · decide
    · rw [List.mem_singleton.1 h]
      decide
  | headers block h =>
    rw [hblock] at h
    cases h
    decide
  | _ => decide

theorem report_splits_back_doubledMail :
    ∃ opening plain status headers closing,
      Text.splitOnMark (octets ("\r\n--" ++ boundary ⟨0⟩))
        (doubledReport.mail ⟨0⟩ ⟨0⟩).message.bytes = [opening, plain, status, headers, closing] ∧
      Text.after Message.blankLine plain = some (octets "--\r\n\r\n--\r\n------=_Part_") ∧
      Text.after Message.blankLine status =
        some (octets ("Reporting-MTA: dns; localhost\r\n" ++
          "\r\nFinal-Recipient: rfc822; user@localhost\r\nAction: failed\r\nStatus: 5.0.0\r\n" ++
          "\r\nFinal-Recipient: rfc822; user@localhost\r\nAction: failed\r\nStatus: 5.0.0\r\n")) ∧
      Text.after Message.blankLine headers = some (octets "Subject: Hi\r\nMessage-ID: <1@a>") := by
  obtain ⟨plain, status, headers, hsplit, _, hplain, _, hstatus, _, hheaders⟩ :=
    report_splits_back ofMail_doubledMail ⟨0⟩ ⟨0⟩ not_boundary_of_inserted
  exact ⟨_, plain, status, headers, _, hsplit, hplain, hstatus, hheaders⟩

end DeliveryReport

end MailRouting
