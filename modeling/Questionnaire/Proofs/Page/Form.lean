import Questionnaire.Page.Basic
import Questionnaire.Proofs.Html.Escape

/-! # Strings of the host in forms and page heads

Scope, method, action, submit label and title go into a page as escaped strings. Whatever they consist
of, the tags around them read back as the tags they were written as.
-/

namespace Questionnaire

open Html Style

/-- The attributes of the form of a slide. An empty action is not one of them. -/
def formAttributes (scope : String) (form : FormOptions) : List Attribute :=
  [⟨"id", scope⟩, ⟨"class", "qf-form"⟩, ⟨"method", form.method⟩] ++
    if form.action = "" then [] else [⟨"action", form.action⟩]

def formEnd (label : String) : List Token :=
  (if label = "" then []
    else .opening "button" [⟨"type", "submit"⟩] :: label.toList.map .char ++
      [.closing "button", .char '\n']) ++
    [.closing "form", .char '\n']

theorem toList_pageAttribute (name value : String) :
    (pageAttribute name value).toList = Spelling.ofPages.attributeText ⟨name, value⟩ := by
  simp [pageAttribute, Spelling.attributeText, Spelling.ofPages, escape_eq_flatMap]

theorem toList_formTag (scope : String) (form : FormOptions) :
    (formTag scope form).toList =
      Spelling.ofPages.write (.opening "form" (formAttributes scope form)) := by
  by_cases empty : form.action = "" <;>
    simp [formTag, formAttributes, Spelling.write, toList_pageAttribute, formClass, empty]

theorem toList_escape (text : String) :
    (escape text).toList = (text.toList.map Token.char).flatMap Spelling.ofPages.write := by
  rw [escape_eq_flatMap, String.toList_ofList, List.flatMap_map]
  rfl

theorem toList_formEnd (label : String) :
    (submitButton label ++ "</form>\n").toList = (formEnd label).flatMap Spelling.ofPages.write := by
  have newLine : Spelling.ofPages.write (.char '\n') = ['\n'] := by decide
  have ends : Spelling.ofPages.write (.closing "form") = "</form>".toList := by decide
  have opens : Spelling.ofPages.write (.opening "button" [⟨"type", "submit"⟩]) =
      "<button type=\"submit\">".toList := by decide
  have closes : Spelling.ofPages.write (.closing "button") = "</button>".toList := by decide
  by_cases empty : label = ""
  · simp [submitButton, formEnd, newLine, ends, empty]
  · simp [submitButton, formEnd, newLine, ends, opens, closes, empty, toList_escape]

theorem readable_formTag (scope : String) (form : FormOptions) :
    (Token.opening "form" (formAttributes scope form)).Readable := by
  apply readable_opening ["id", "class", "method", "action"] _ (by decide)
  unfold formAttributes
  split <;> simp

theorem readable_formEnd (label : String) : ∀ token ∈ formEnd label, token.Readable := by
  have names : IsName "button" ∧ IsName "form" ∧ IsName "type" := by decide
  intro token hm
  by_cases empty : label = ""
  · simp only [formEnd, if_pos empty, List.nil_append, List.mem_cons, List.not_mem_nil] at hm
    rcases hm with rfl | rfl | hm
    · exact names.2.1
    · trivial
    · cases hm
  · simp only [formEnd, if_neg empty, List.cons_append, List.append_assoc, List.mem_cons,
      List.mem_append, List.mem_map, List.not_mem_nil, or_false, false_or] at hm
    rcases hm with rfl | ⟨c, -, rfl⟩ | rfl | rfl | rfl | rfl
    · exact readable_opening ["type"] (.refl _) (by decide)
    · trivial
    · exact names.1
    · trivial
    · exact names.2.1
    · trivial

/-- In the head of a page, only the text between two tags depends on the title. -/
theorem exists_pageHead (customCss : Option String) :
    ∃ front back, ∀ title,
      pageHead title customCss = front ++ "<title>" ++ escape title ++ "</title>" ++ back := by
  have opens : "  <title>" = "  " ++ "<title>" := by decide
  have closes : "</title>\n" = "</title>" ++ "\n" := by decide
  refine ⟨"<!DOCTYPE html>\n" ++ "<html lang=\"en\">\n" ++ "<head>\n" ++
    "  <meta charset=\"UTF-8\">\n" ++
    "  <meta name=\"viewport\" content=\"width=device-width, initial-scale=1.0\">\n" ++
    "  <meta name=\"generator\" content=\"quizform\">\n" ++ "  ",
    "\n" ++ "  <style>\n" ++ sheet ++ "\n" ++ customCss.getD "" ++ "\n  </style>\n" ++
    "</head>\n" ++ "<body>\n" ++ "<div" ++ pageAttribute "class" documentClass ++ ">\n", ?_⟩
  intro title
  unfold pageHead
  simp only [opens, closes, String.append_assoc, -String.reduceAppend]

/-- **Strings of the host stay where they are written.** Escaping replaces four characters and can be
undone. So the tag of a form has just the attributes meant for it, what follows it is the content
as it is, and behind the content stand the button with its text and the closing tag. In the head of a
page the title is followed by the rest of the head. -/
theorem host_strings_read_back :
    (∀ text : String, escape text = String.ofList (text.toList.flatMap escapeChar) ∧
      (∀ c ∈ (escape text).toList, c ≠ '<' ∧ c ≠ '>' ∧ c ≠ '"') ∧
      decode? (escape text) = some text) ∧
    (∀ (scope body : String) (form : FormOptions), ∃ behind,
      Html.readToken? (wrapForm scope body form).toList =
        some (.opening "form" (formAttributes scope form), '\n' :: body.toList ++ behind) ∧
      readAll? Html.readToken? behind = some (formEnd form.submitLabel)) ∧
    (∀ customCss : Option String, ∃ front back : String, ∀ title, ∃ written : String,
      pageHead title customCss = front ++ "<title>" ++ written ++ "</title>" ++ back ∧
      '<' ∉ written.toList ∧ decode? written = some title) := by
  refine ⟨?_, ?_, ?_⟩
  · intro text
    exact ⟨escape_eq_flatMap text, fun c hm => ne_of_mem_escape hm, decode?_escape text⟩
  · intro scope body form
    have whole : (wrapForm scope body form).toList =
        Spelling.ofPages.write (.opening "form" (formAttributes scope form)) ++
          ('\n' :: body.toList ++ (formEnd form.submitLabel).flatMap Spelling.ofPages.write) := by
      rw [← toList_formTag, ← toList_formEnd]
      simp [wrapForm]
    refine ⟨_, ?_, Spelling.ofPages.readAll?_write (readable_formEnd form.submitLabel)⟩
    rw [whole]
    exact Spelling.ofPages.readToken?_write (readable_formTag scope form) _
  · intro customCss
    obtain ⟨front, back, split⟩ := exists_pageHead customCss
    refine ⟨front, back, fun title => ⟨escape title, split title, ?_, decode?_escape title⟩⟩
    intro hm
    exact (ne_of_mem_escape hm).1 rfl

end Questionnaire
