import TableTalk.Proofs.Csv.LineEndings
import TableTalk.Proofs.Source.Loading

/-!
# The same bytes in a file and on a page

A file is read without a byte-order mark and with line feeds for all line endings, a page as it is
sent. If no line ends inside quotes, this makes no difference to what is loaded, except for the
mark: from a page it gets into the first header.
-/

namespace TableTalk.Source

open TableTalk.Action Text Web

structure HoldsFile (location : String) (bytes : List UInt8) (w : World) : Prop where
  isUrl_eq : isUrl location = false
  exists_path : ∃ path, World.expandHome (Path.parse location) w = (.ok path, w) ∧
    w.files.exists? w.cwd path = .ok true ∧ w.files.read w.cwd path = .ok bytes

def NamesNoCharset (reply : Reply) : Prop :=
  ∀ kind, reply.header? "content-type" = some kind → ContentType.charsetLabel? kind = some none

/-- A location is a web address that answers with status 200, these bytes and no character set. -/
structure HoldsPage (location : String) (bytes : List UInt8) (w : World) : Prop where
  isUrl_eq : isUrl location = true
  exists_reply : ∃ address reply, Address.parse location = .ok address ∧
    address.isAbsolute = true ∧ w.received address.text = .reply reply ∧ reply.status = 200 ∧
    reply.body = bytes ∧ NamesNoCharset reply

/-- Two loads give the same table, or both report that the data cannot be obtained. -/
inductive SameOutcome : Except Failure Table → Except Failure Table → Prop
  | table (t : Table) : SameOutcome (.ok t) (.ok t)
  | noTable {f g : Failure} : f.isDataFailure = true → g.isDataFailure = true →
      SameOutcome (.error f) (.error g)

variable {location : String} {content : List Char} {w : World}

theorem readTable_of_holdsFile (h : HoldsFile location (encodeUtf8 content) w) (ownClient : Bool) :
    (readTable ownClient location w).1 = Csv.parseChars (unifyNewlines (unmarked content)) := by
  obtain ⟨path, hhome, hthere, hread⟩ := h.exists_path
  have hexists := World.pathExists_run path w
  have htext := World.readText_run true path w
  rw [hthere] at hexists
  rw [hread] at htext
  dsimp only at htext
  rw [if_pos rfl, dropMark_encodeUtf8, decodeUtf8?_encodeUtf8] at htext
  have hfile : readCsvText ownClient location w =
      (.ok (String.ofList (unifyNewlines (unmarked content))), w) := by
    rw [readCsvText, if_neg (by rw [h.isUrl_eq]; decide), readCsvFile, bind_of_ok hhome,
      bind_of_ok hexists]
    exact htext
  rw [readTable, bind_of_ok hfile, ofExcept_run, Csv.parse, String.toList_ofList]

theorem charset_of_namesNoCharset {reply : Reply} (h : NamesNoCharset reply) :
    reply.charset = .ok .utf8 := by
  rw [Reply.charset]
  cases hkind : reply.header? "content-type" with
  | none => rfl
  | some kind =>
    dsimp only
    rw [h kind hkind]
    rfl

theorem text_of_namesNoCharset {reply : Reply} (h : NamesNoCharset reply)
    (hbody : reply.body = encodeUtf8 content) : reply.text = .ok (String.ofList content) := by
  rw [Reply.text, charset_of_namesNoCharset h, hbody]
  cases hempty : (encodeUtf8 content).isEmpty with
  | true =>
    have hcontent := decodeUtf8Lossy_encodeUtf8 content
    rw [List.isEmpty_iff.1 hempty, decodeUtf8Lossy, utf8Chars] at hcontent
    rw [if_pos rfl, ← hcontent]
    rfl
  | false =>
    have hdecode : Charset.utf8.decode (encodeUtf8 content) = .ok content := by
      rw [Charset.decode, hempty]
      exact congrArg Except.ok (decodeUtf8Lossy_encodeUtf8 content)
    rw [if_neg (by decide)]
    change (((Charset.utf8.decode (encodeUtf8 content)).mapError Reply.TextFault.charset) >>=
      fun cs => pure (String.ofList cs)) = _
    rw [hdecode]
    rfl

theorem getPage_of_isSuccess {address : Address} {reply : Reply}
    (hscheme : namesScheme address.text = true) (hreply : w.received address.text = .reply reply)
    (hsuccess : isSuccess reply.status = true) (ownClient : Bool) :
    getPage ownClient address w = (.ok (address, reply), w.sent (getting address)) := by
  have hask := ask_run "GET" address none w
  have hreplied : replyOf address (w.received address.text) = .ok (reply, none) := by
    rw [hreply, replyOf]
    simp only [Outcome.reply?]
    rw [if_pos hscheme, onward?_of_isSuccess address hsuccess]
    rfl
  rw [hreplied] at hask
  cases ownClient with
  | true => rw [getPage, if_pos rfl, bind_of_ok hask]; rfl
  | false => rw [getPage, if_neg (by decide), fetch, bind_of_ok hask]; rfl

theorem readTable_of_holdsPage (h : HoldsPage location (encodeUtf8 content) w) (ownClient : Bool) :
    (readTable ownClient location w).1 = Csv.parseChars content := by
  obtain ⟨address, reply, hparse, habsolute, hreply, hstatus, hbody, hcharset⟩ := h.exists_reply
  have haddress : addressOf location = .ok address := by
    rw [addressOf, hparse]
    rfl
  have hsuccess : isSuccess reply.status = true := by
    rw [hstatus]
    decide
  have hpage := getPage_of_isSuccess (Address.namesScheme_text hparse habsolute) hreply hsuccess
    ownClient
  have htext : textOf (address, reply) = .ok (String.ofList content) := by
    rw [textOf, if_pos hsuccess, text_of_namesNoCharset hcharset hbody]
    rfl
  have hdownload : readCsvText ownClient location w =
      (.ok (String.ofList content), w.sent (getting address)) := by
    rw [readCsvText, if_pos h.isUrl_eq, download_eq, haddress, bind_of_ok (ofExcept_run _ w),
      Address.rooted_of_isAbsolute habsolute, bind_of_ok hpage, ofExcept_run, htext]
  rw [readTable, bind_of_ok hdownload, ofExcept_run, Csv.parse, String.toList_ofList]

theorem loadTable_of_readTable {ownClient : Bool} {cs : List Char}
    (h : (readTable ownClient location w).1 = Csv.parseChars cs) :
    (loadTable ownClient location none w).1 =
      (Csv.parseChars cs).mapError fun f => .unreadableTable location none f.message := by
  rcases hread : readTable ownClient location w with ⟨f | t, w'⟩
  · rw [hread] at h
    obtain rfl := Csv.eq_noData_of_parseChars h.symm
    have hload : loadTable ownClient location none w =
        (.error (.unreadableTable location none Failure.noData.message), w') :=
      orElseIf_of_error hread rfl
    rw [hload, ← h]
    rfl
  · rw [hread] at h
    rw [loadTable_of_ok hread, ← h]
    rfl

theorem sameOutcome_mapError (r : Except Failure Table) {report report' : Failure → Failure}
    (hreport : ∀ f, (report f).isDataFailure = true)
    (hreport' : ∀ f, (report' f).isDataFailure = true) :
    SameOutcome (r.mapError report) (r.mapError report') := by
  cases r with
  | error f => exact .noTable (hreport f) (hreport' f)
  | ok t => exact .table t

theorem length_trim_lt (text : String) : (trim text).length < ("\uFEFF" ++ text).length := by
  have hle := (infix_trimChars text.toList).length_le
  have hmark : "\uFEFF".length = 1 := rfl
  rw [String.length_toList] at hle
  rw [trim, String.length_ofList, String.length_append, hmark]
  omega

theorem not_sameOutcome_mark (first : String) {others others' : List String}
    {rows rows' : List (List Cell)} :
    ¬ SameOutcome (.ok ⟨trim first :: others, rows⟩)
      (.ok ⟨("\uFEFF" ++ first) :: others', rows'⟩) := by
  intro hsame
  have hlt := length_trim_lt first
  generalize trim first = header at hsame hlt
  generalize "\uFEFF" ++ first = header' at hsame hlt
  cases hsame
  exact absurd hlt (Nat.lt_irrefl _)

section Loads

variable {file page : String} {content : List Char} {w w' : World}

theorem loadTable_of_holdsFile (h : HoldsFile file (encodeUtf8 content) w)
    (hbreaks : Csv.HasPlainBreaks content) (ownClient : Bool) :
    (loadTable ownClient file none w).1 = (Csv.parseChars (unmarked content)).mapError
      fun f => .unreadableTable file none f.message :=
  loadTable_of_readTable ((readTable_of_holdsFile h ownClient).trans
    hbreaks.unmarked.parseChars_unifyNewlines)

theorem loadTable_of_holdsPage (h : HoldsPage page (encodeUtf8 content) w) (ownClient : Bool) :
    (loadTable ownClient page none w).1 = (Csv.parseChars content).mapError
      fun f => .unreadableTable page none f.message :=
  loadTable_of_readTable (readTable_of_holdsPage h ownClient)

/-- Behind a mark the page and the file give tables that differ in the first header alone. -/
theorem loadTable_of_mark {cs : List Char} (hfile : HoldsFile file (encodeUtf8 (markChar :: cs)) w)
    (hpage : HoldsPage page (encodeUtf8 (markChar :: cs)) w')
    (hbreaks : Csv.HasPlainBreaks (markChar :: cs)) (ownClient ownClient' : Bool) :
    ∃ first others rows,
      (loadTable ownClient' page none w').1 = .ok ⟨("\uFEFF" ++ first) :: others, rows⟩ ∧
      (loadTable ownClient file none w).1 =
        if allBlank cs then .error (.unreadableTable file none Failure.noData.message)
        else .ok ⟨trim first :: others, rows⟩ := by
  obtain ⟨first, others, rows, hmarked, hplain⟩ := Csv.parseChars_mark cs
  have hunmarked : unmarked (markChar :: cs) = cs := rfl
  refine ⟨first, others, rows, ?_, ?_⟩
  · rw [loadTable_of_holdsPage hpage, hmarked]
    rfl
  · rw [loadTable_of_holdsFile hfile hbreaks, hunmarked, hplain]
    cases allBlank cs <;> rfl

/-- The same bytes in a file and on a page are loaded alike exactly if they do not start with a
byte-order mark. If they do, a page always gives a table, with the mark in its first header; the
file gives the same table without the mark and the white space behind it, or reports that there is
no data if nothing but white space is left. -/
theorem loadTable_file_page (hfile : HoldsFile file (encodeUtf8 content) w)
    (hpage : HoldsPage page (encodeUtf8 content) w') (hbreaks : Csv.HasPlainBreaks content)
    (ownClient ownClient' : Bool) :
    (SameOutcome (loadTable ownClient file none w).1 (loadTable ownClient' page none w').1 ↔
      content.head? ≠ some markChar) ∧
    ∀ cs, content = markChar :: cs → ∃ first others rows,
      (loadTable ownClient' page none w').1 = .ok ⟨("\uFEFF" ++ first) :: others, rows⟩ ∧
      (loadTable ownClient file none w).1 =
        if allBlank cs then .error (.unreadableTable file none Failure.noData.message)
        else .ok ⟨trim first :: others, rows⟩ := by
  refine ⟨⟨fun hsame hhead => ?_, fun hhead => ?_⟩, ?_⟩
  · obtain ⟨cs, rfl⟩ := List.head?_eq_some_iff.1 hhead
    obtain ⟨first, others, rows, hfromPage, hfromFile⟩ :=
      loadTable_of_mark hfile hpage hbreaks ownClient ownClient'
    rw [hfromPage, hfromFile] at hsame
    cases hblank : allBlank cs with
    | true =>
      rw [hblank] at hsame
      cases hsame
    | false =>
      rw [hblank] at hsame
      exact not_sameOutcome_mark first hsame
  · rw [loadTable_of_holdsFile hfile hbreaks, loadTable_of_holdsPage hpage, unmarked, if_neg hhead]
    exact sameOutcome_mapError _ (fun _ => rfl) fun _ => rfl
  · rintro cs rfl
    exact loadTable_of_mark hfile hpage hbreaks ownClient ownClient'

end Loads

def tableAddress : Address where
  scheme := "http"
  user := ""
  host := "csv.example"
  port := none
  path := "/t.csv"
  query := none
  fragment := none

def twiceHeld (content : List Char) : World :=
  { World.bare with
    files := ⟨[(["t.csv"], .file (encodeUtf8 content))]⟩
    web := ⟨[("http://csv.example/t.csv",
      [.reply ⟨200, [("Content-Type", "text/csv")], encodeUtf8 content⟩])], []⟩ }

theorem holdsFile_twiceHeld (content : List Char) :
    HoldsFile "t.csv" (encodeUtf8 content) (twiceHeld content) where
  isUrl_eq := by decide +kernel
  exists_path := by
    have hpath : Path.parse "t.csv" = ⟨"", ["t.csv"]⟩ := by decide
    rw [hpath]
    exact ⟨⟨"", ["t.csv"]⟩, rfl, rfl, rfl⟩

theorem holdsPage_twiceHeld (content : List Char) :
    HoldsPage "http://csv.example/t.csv" (encodeUtf8 content) (twiceHeld content) where
  isUrl_eq := by decide +kernel
  exists_reply := by
    have htext : tableAddress.text = "http://csv.example/t.csv" := by decide +kernel
    refine ⟨tableAddress, ⟨200, [("Content-Type", "text/csv")], encodeUtf8 content⟩,
      by decide +kernel, rfl, ?_, rfl, rfl, ?_⟩
    · rw [htext, World.received]
      rfl
    · intro kind hkind
      -- The content type does not depend on the body, so it is evaluated at an empty one.
      have hheader : Reply.header? ⟨200, [("Content-Type", "text/csv")], []⟩ "content-type" =
          some "text/csv" := by decide +kernel
      obtain rfl := Option.some.inj (hheader.symm.trans hkind)
      decide +kernel

/-- Carriage returns, doubled quotes and a comma between quotes. -/
theorem loadTable_file_page_returns :
    let content := "id,\"a,b\"\r\n\r\n1, \"x\"\"y\" \r\n".toList
    HoldsFile "t.csv" (encodeUtf8 content) (twiceHeld content) ∧
      HoldsPage "http://csv.example/t.csv" (encodeUtf8 content) (twiceHeld content) ∧
      Csv.HasPlainBreaks content ∧
      SameOutcome (loadTable false "t.csv" none (twiceHeld content)).1
        (loadTable true "http://csv.example/t.csv" none (twiceHeld content)).1 := by
  intro content
  have hbreaks : Csv.HasPlainBreaks content := by
    have halike : content = withReturns "id,\"a,b\"\n\n1, \"x\"\"y\" \n".toList := by decide
    have houtside : ∀ piece ∈ Csv.cutOutside '\n' [] (Csv.body content), '\n' ∉ piece := by decide
    exact ⟨Or.inr ⟨_, by decide, halike⟩, fun a b => Csv.notMem_cutOutside_iff.1 houtside a b⟩
  have hfile := holdsFile_twiceHeld content
  have hpage := holdsPage_twiceHeld content
  exact ⟨hfile, hpage, hbreaks,
    (loadTable_file_page hfile hpage hbreaks false true).1.2 (by decide)⟩

/-- Behind a mark the page gives another table than the file. -/
theorem not_sameOutcome_marked :
    let content := "\uFEFFid\n1\n".toList
    HoldsFile "t.csv" (encodeUtf8 content) (twiceHeld content) ∧
      HoldsPage "http://csv.example/t.csv" (encodeUtf8 content) (twiceHeld content) ∧
      Csv.HasPlainBreaks content ∧
      (loadTable false "t.csv" none (twiceHeld content)).1 = .ok ⟨["id"], [[some "1"]]⟩ ∧
      (loadTable false "http://csv.example/t.csv" none (twiceHeld content)).1 =
        .ok ⟨["\uFEFFid"], [[some "1"]]⟩ ∧
      ¬ SameOutcome (loadTable false "t.csv" none (twiceHeld content)).1
        (loadTable false "http://csv.example/t.csv" none (twiceHeld content)).1 := by
  intro content
  have hfile := holdsFile_twiceHeld content
  have hpage := holdsPage_twiceHeld content
  have hbreaks : Csv.HasPlainBreaks content := by
    have houtside : ∀ piece ∈ Csv.cutOutside '\n' [] (Csv.body content), '\n' ∉ piece := by decide
    exact ⟨Or.inl (by decide), fun a b => Csv.notMem_cutOutside_iff.1 houtside a b⟩
  have hfromFile : (loadTable false "t.csv" none (twiceHeld content)).1 =
      .ok ⟨["id"], [[some "1"]]⟩ := by
    rw [loadTable_of_holdsFile hfile hbreaks]
    decide
  have hfromPage : (loadTable false "http://csv.example/t.csv" none (twiceHeld content)).1 =
      .ok ⟨["\uFEFFid"], [[some "1"]]⟩ := by
    rw [loadTable_of_holdsPage hpage]
    decide
  refine ⟨hfile, hpage, hbreaks, hfromFile, hfromPage, ?_⟩
  have hid : "id" = trim "id" := by decide
  rw [hfromFile, hfromPage, hid]
  exact not_sameOutcome_mark "id"

end TableTalk.Source
