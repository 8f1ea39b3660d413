import Tiber.Infrastructure.Database
import Tiber.Library.Markup

/-! The email provider, and the HTML it builds.

The HTML is put together as a text, with the content escaped piece by piece. Read as HTML, that text
is the document it was meant to be: what clients write stays characters, and every element is ours.
-/

set_option autoImplicit false

namespace Tiber

open Library

/-! ## As the code builds it -/

def replaceChar (old : Char) (new text : Text) : Text := text.flatMap fun c => if c = old then new else [c]

/-- `html.escape`, which replaces quotes as well unless told otherwise. -/
def htmlEscape (text : Text) : Text :=
  replaceChar '\x27' "&#x27;".toList <| replaceChar '\x22' "&quot;".toList <| replaceChar '>' "&gt;".toList <|
    replaceChar '<' "&lt;".toList <| replaceChar '&' "&amp;".toList text

/-- How a request over HTTP ends. Of the body the providers read one member, which is `none` here when it is
missing; a body that is no JSON object cannot be read. -/
inductive HttpReply where
  | failed
  | readable (status : Nat) (member : Option String)
  | unreadable (status : Nat) (failure : PyError)

def transientProviderError (message : String) : PyError := .raised "TransientProviderError" message

/-- What the providers over HTTP make of a status. A redirection is no error. -/
def refusal (service : String) (status : Nat) : Option ProviderAnswer :=
  if status = 408 ∨ status = 429 ∨ 500 ≤ status then
    some (.raised (transientProviderError (service ++ " returned transient HTTP " ++ toString status)))
  else if 400 ≤ status then some (.result false none (some (service ++ " returned HTTP " ++ toString status)))
  else none

def HttpReply.answer (service : String) : HttpReply → ProviderAnswer
  | failed => .raised (transientProviderError (service ++ " request failed"))
  | readable status member => (refusal service status).getD (.result true member none)
  | unreadable status failure => (refusal service status).getD (.raised failure)

structure ResendParams where
  sender : Text
  recipients : List Text
  subject : Text
  text : Text
  html : Text

structure ResendEmailProvider where
  apiKey : Text
  sender : Text
  apiKey_solid : apiKey ≠ []
  sender_solid : sender ≠ []

namespace ResendEmailProvider

def imageHtml (image : ContentImage) : Text :=
  if image.url = [] then []
  else
    "<p>".toList ++ ("<img src=\x22".toList ++ htmlEscape image.url ++ "\x22 ".toList) ++
      "style=\x22max-width: 100%; height: auto;\x22 alt=\x22\x22>".toList ++ "</p>".toList

/-- An action always has a `label` attribute and never a `text` one. -/
def actionLabel (action : ContentAction) : Text := if action.label = [] then "Open".toList else action.label

def actionHtml (action : ContentAction) : Text :=
  if action.url = [] then []
  else
    "<p>".toList ++ ("<a href=\x22".toList ++ htmlEscape action.url ++ "\x22>".toList) ++
      htmlEscape (actionLabel action) ++ "</a>".toList ++ "</p>".toList

def buildHtml (body : Text) (actions : List ContentAction) (images : List ContentImage) : Text :=
  let html := replaceChar '\n' "<br>".toList (htmlEscape body)
  let html := images.foldl (fun html image => html ++ imageHtml image) html
  let html := actions.foldl (fun html action => html ++ actionHtml action) html
  "<div>".toList ++ html ++ "</div>".toList

/-- `send`, with what is posted: nothing without an address. -/
def send (provider : ResendEmailProvider) (message : ProviderMessage) (reply : HttpReply) :
    Option ResendParams × ProviderAnswer :=
  if message.recipientAddress = [] then (none, .result false none (some "recipient address must not be empty"))
  else
    (some {
      sender := provider.sender
      recipients := [message.recipientAddress]
      subject := message.content.title.getD []
      text := message.content.body
      html := buildHtml message.content.body message.content.actions message.content.images },
      reply.answer "Resend")

/-! ## As it is meant -/

open Markup

def line (c : Char) : Markup := if c = '\n' then opening "br".toList [] else char c

def imageItems (image : ContentImage) : List Markup :=
  if image.url = [] then []
  else
    [opening "p".toList [],
      opening "img".toList [("src".toList, image.url), ("style".toList, "max-width: 100%; height: auto;".toList),
        ("alt".toList, [])],
      closing "p".toList]

def actionItems (action : ContentAction) : List Markup :=
  if action.url = [] then []
  else
    [opening "p".toList [], opening "a".toList [("href".toList, action.url)]] ++ (actionLabel action).map char ++
      [closing "a".toList, closing "p".toList]

/-- The characters of the body with its lines broken, then the images, then the links. -/
def document (body : Text) (actions : List ContentAction) (images : List ContentImage) : List Markup :=
  [opening "div".toList []] ++ body.map line ++ images.flatMap imageItems ++ actions.flatMap actionItems ++
    [closing "div".toList]

/-! ## The one is the other, written -/

theorem replaceChar_append (old : Char) (new first rest : Text) :
    replaceChar old new (first ++ rest) = replaceChar old new first ++ replaceChar old new rest :=
  List.flatMap_append

theorem replaceChar_other {old c : Char} (new : Text) (other : c ≠ old) : replaceChar old new [c] = [c] := by
  show (if c = old then new else [c]) ++ [] = [c]
  rw [if_neg other, List.append_nil]

/-- What the first replacement put in is not replaced by a later one. -/
theorem htmlEscape_single (c : Char) : htmlEscape [c] = escapeChar c := by
  unfold escapeChar
  split
  · rename_i same
    exact same ▸ rfl
  · split
    · rename_i same
      exact same ▸ rfl
    · split
      · rename_i same
        exact same ▸ rfl
      · split
        · rename_i same
          exact same ▸ rfl
        · split
          · rename_i same
            exact same ▸ rfl
          · rename_i ampersand less greater quote apostrophe
            unfold htmlEscape
            rw [replaceChar_other _ ampersand, replaceChar_other _ less, replaceChar_other _ greater,
              replaceChar_other _ quote, replaceChar_other _ apostrophe]

theorem htmlEscape_eq (text : Text) : htmlEscape text = text.flatMap escapeChar := by
  induction text with
  | nil => rfl
  | cons c rest ih =>
      have split : htmlEscape (c :: rest) = htmlEscape [c] ++ htmlEscape rest := by
        show htmlEscape ([c] ++ rest) = _
        simp only [htmlEscape, replaceChar_append]
      rw [split, htmlEscape_single, ih, List.flatMap_cons]

theorem write_append (first rest : List Markup) : write (first ++ rest) = write first ++ write rest :=
  List.flatMap_append

theorem write_chars (text : Text) : write (text.map char) = htmlEscape text := by
  rw [htmlEscape_eq, write, List.flatMap_map]
  rfl

theorem escapeChar_inline {c : Char} (new : Text) (inline : c ≠ '\n') :
    replaceChar '\n' new (escapeChar c) = escapeChar c := by
  have spelled : ∀ reference ∈ ["&amp;", "&lt;", "&gt;", "&quot;", "&#x27;"], '\n' ∉ reference.toList := by decide
  have kept : ∀ text : Text, '\n' ∉ text → replaceChar '\n' new text = text := by
    intro text unbroken
    induction text with
    | nil => rfl
    | cons d rest ih =>
        rw [List.mem_cons, not_or] at unbroken
        have alone : replaceChar '\n' new ([d] ++ rest) = [d] ++ rest := by
          rw [replaceChar_append, replaceChar_other new (Ne.symm unbroken.1), ih unbroken.2]
        exact alone
  apply kept
  unfold escapeChar
  split_ifs
  · exact spelled _ (by decide)
  · exact spelled _ (by decide)
  · exact spelled _ (by decide)
  · exact spelled _ (by decide)
  · exact spelled _ (by decide)
  · exact fun broken => inline (List.mem_singleton.mp broken).symm

theorem write_line (c : Char) : writeItem (line c) = replaceChar '\n' "<br>".toList (escapeChar c) := by
  by_cases broken : c = '\n'
  · subst broken
    rfl
  · rw [line, if_neg broken, escapeChar_inline _ broken]
    rfl

theorem write_lines (body : Text) : write (body.map line) = replaceChar '\n' "<br>".toList (htmlEscape body) := by
  rw [htmlEscape_eq]
  induction body with
  | nil => rfl
  | cons c rest ih =>
      rw [List.flatMap_cons, replaceChar_append, ← ih, ← write_line]
      rfl

theorem write_imageItems (image : ContentImage) : write (imageItems image) = imageHtml image := by
  unfold imageItems imageHtml
  split
  · rfl
  · rw [htmlEscape_eq]
    simp [write, writeItem, writeAttribute, escapeChar]

theorem write_actionItems (action : ContentAction) : write (actionItems action) = actionHtml action := by
  unfold actionItems actionHtml
  split
  · rfl
  · rw [write_append, write_append, write_chars, htmlEscape_eq action.url]
    simp [write, writeItem, writeAttribute]

theorem appended {α : Type} (piece : α → Text) (html : Text) (items : List α) :
    items.foldl (fun html item => html ++ piece item) html = html ++ items.flatMap piece := by
  induction items generalizing html with
  | nil => simp
  | cons item rest ih => rw [List.foldl_cons, ih, List.flatMap_cons, List.append_assoc]

theorem write_each {α : Type} (items : α → List Markup) (piece : α → Text) (same : ∀ a, write (items a) = piece a)
    (all : List α) : write (all.flatMap items) = all.flatMap piece := by
  induction all with
  | nil => rfl
  | cons a rest ih => rw [List.flatMap_cons, write_append, same, ih, List.flatMap_cons]

theorem buildHtml_eq (body : Text) (actions : List ContentAction) (images : List ContentImage) :
    buildHtml body actions images = write (document body actions images) := by
  unfold buildHtml document
  simp only [appended, write_append, write_lines, write_each _ _ write_imageItems, write_each _ _ write_actionItems]
  simp [write, writeItem]

theorem spelled_line (c : Char) : (line c).Spelled := by
  unfold line
  split
  · exact opening_spelled (by decide) rfl rfl
  · trivial

theorem spelled_imageItems (image : ContentImage) : ∀ item ∈ imageItems image, item.Spelled := by
  unfold imageItems
  split
  · exact fun _ => nofun
  · simp only [List.forall_mem_cons]
    exact ⟨opening_spelled (by decide) rfl rfl, opening_spelled (by decide) rfl rfl, closing_spelled rfl,
      List.forall_mem_nil _⟩

theorem spelled_actionItems (action : ContentAction) : ∀ item ∈ actionItems action, item.Spelled := by
  unfold actionItems
  split
  · exact fun _ => nofun
  · have start : ∀ item ∈ [opening "p".toList [], opening "a".toList [("href".toList, action.url)]], item.Spelled :=
      List.forall_mem_cons.mpr
        ⟨opening_spelled (by decide) rfl rfl, List.forall_mem_singleton.mpr (opening_spelled (by decide) rfl rfl)⟩
    have label : ∀ item ∈ (actionLabel action).map char, item.Spelled := List.forall_mem_map.mpr fun _ _ => trivial
    have finish : ∀ item ∈ [closing "a".toList, closing "p".toList], item.Spelled :=
      List.forall_mem_cons.mpr ⟨closing_spelled rfl, List.forall_mem_singleton.mpr (closing_spelled rfl)⟩
    exact List.forall_mem_append.mpr ⟨List.forall_mem_append.mpr ⟨start, label⟩, finish⟩

theorem document_spelled (body : Text) (actions : List ContentAction) (images : List ContentImage) :
    ∀ item ∈ document body actions images, item.Spelled := by
  have start : ∀ item ∈ [opening "div".toList []], item.Spelled :=
    List.forall_mem_singleton.mpr (opening_spelled (by decide) rfl rfl)
  have lines : ∀ item ∈ body.map line, item.Spelled := List.forall_mem_map.mpr fun c _ => spelled_line c
  have pictures : ∀ item ∈ images.flatMap imageItems, item.Spelled :=
    List.forall_mem_flatMap.mpr fun image _ => spelled_imageItems image
  have links : ∀ item ∈ actions.flatMap actionItems, item.Spelled :=
    List.forall_mem_flatMap.mpr fun action _ => spelled_actionItems action
  have finish : ∀ item ∈ [closing "div".toList], item.Spelled := List.forall_mem_singleton.mpr (closing_spelled rfl)
  unfold document
  simp only [List.forall_mem_append]
  exact ⟨⟨⟨⟨start, lines⟩, pictures⟩, links⟩, finish⟩

/-- Nothing in what clients write is read as markup: the email that is posted is read as the document it was
meant to be, its text part is the body, and it goes to the one address. -/
theorem email_reads_as_meant (provider : ResendEmailProvider) (message : ProviderMessage) (reply : HttpReply) :
    message.recipientAddress = [] ∧ (provider.send message reply).1 = none ∨
      message.recipientAddress ≠ [] ∧ ∃ email, (provider.send message reply).1 = some email ∧
        Markup.read email.html =
          some (document message.content.body message.content.actions message.content.images) ∧
        email.text = message.content.body ∧ email.recipients = [message.recipientAddress] ∧
        email.sender = provider.sender := by
  unfold send
  split
  · rename_i unaddressed
    exact .inl ⟨unaddressed, rfl⟩
  · rename_i addressed
    have spelled := document_spelled message.content.body message.content.actions message.content.images
    refine .inr ⟨addressed, _, rfl, ?_, rfl, rfl, rfl⟩
    rw [buildHtml_eq]
    exact read_write spelled

example : Markup.read (buildHtml "<i>\n&amp;".toList [] []) =
    some ([opening "div".toList []] ++ "<i>".toList.map char ++ [opening "br".toList []] ++ "&amp;".toList.map char ++
      [closing "div".toList]) := by decide

end ResendEmailProvider

end Tiber
