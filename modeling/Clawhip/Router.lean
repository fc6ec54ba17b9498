import Clawhip.DynamicTokens
import Clawhip.Events.Context

/-!
# The router's renderings

`Router::render_delivery_body` of `src/router.rs`: the body of a delivery is the delivery's template,
or else the default rendering of the event, and both go through the dynamic tokens when the delivery
allows them.
-/

namespace Clawhip

/-- The `Renderer` trait: the default rendering of an event in a format. -/
abbrev Renderer := IncomingEvent → MessageFormat → Except String String

namespace Router

open DynamicTokens

def renderDeliveryBody (oracle : Oracle) (renderer : Renderer) (event : IncomingEvent)
    (delivery : ResolvedDelivery) : Except String Rendered :=
  match delivery.template with
  | some template =>
    .ok (renderTemplate oracle template event.templateContext delivery.allow_dynamic_tokens)
  | none => do
    let rendered ← renderer event delivery.format
    if delivery.allow_dynamic_tokens then
      .ok (renderTemplate oracle rendered event.templateContext true)
    else .ok ⟨rendered, []⟩

/-- The text whose groups a delivery may ask for: its template, or else the default rendering. -/
def bodyText (renderer : Renderer) (event : IncomingEvent) (delivery : ResolvedDelivery) :
    Except String String :=
  match delivery.template with
  | some template => .ok template
  | none => renderer event delivery.format

/-- What a body asks for comes from the rendering of the body's text. -/
theorem renderDeliveryBody_asked (oracle : Oracle) (renderer : Renderer) (event : IncomingEvent)
    (delivery : ResolvedDelivery) {text : String} {body : Rendered}
    (htext : bodyText renderer event delivery = .ok text)
    (hbody : renderDeliveryBody oracle renderer event delivery = .ok body) :
    body.asked = (renderTemplate oracle text event.templateContext delivery.allow_dynamic_tokens).asked := by
  unfold bodyText at htext
  unfold renderDeliveryBody at hbody
  cases htemplate : delivery.template with
  | some template =>
    rw [htemplate] at htext hbody
    obtain rfl := Except.ok.inj htext
    rw [← Except.ok.inj hbody]
  | none =>
    rw [htemplate] at htext hbody
    dsimp only at htext hbody
    rw [htext] at hbody
    cases hallow : delivery.allow_dynamic_tokens with
    | true =>
      rw [hallow] at hbody
      rw [← Except.ok.inj hbody]
    | false =>
      rw [hallow] at hbody
      rw [← Except.ok.inj hbody]
      rfl

/-- What event data can and cannot add. Without the permission the oracle is asked for nothing. With
it, a template without groups inside groups, in a context whose keys close no brace and whose used
values open none, renders in one pass: every value is copied as it is, and the oracle is asked, in
order, for the groups of the template that are not keys. A delivery asks by its template, or by the
default rendering where it has none. -/
theorem asks_for_spelled_groups (oracle : Oracle) :
    (∀ template context, (renderTemplate oracle template context false).asked = []) ∧
    (∀ template context, FlatTemplate template → PlainContext template context →
      renderTemplate oracle template context true = onePass oracle template context ∧
        (renderTemplate oracle template context true).asked =
          (spelled template).filter fun name => (context.get name).isNone) ∧
    ∀ renderer event delivery text body, bodyText renderer event delivery = .ok text →
      renderDeliveryBody oracle renderer event delivery = .ok body →
        (delivery.allow_dynamic_tokens = false → body.asked = []) ∧
        (FlatTemplate text → PlainContext text event.templateContext →
          body.asked = if delivery.allow_dynamic_tokens then
            (spelled text).filter fun name => (event.templateContext.get name).isNone else []) := by
  have hflat : ∀ template context, FlatTemplate template → PlainContext template context →
      (renderTemplate oracle template context true).asked =
        (spelled template).filter fun name => (OrdMap.get context name).isNone := by
    intro template context ht hc
    rw [renderTemplate_of_flat oracle ht hc, onePass_asked]
  refine ⟨fun _ _ => rfl, fun template context ht hc => ⟨renderTemplate_of_flat oracle ht hc,
    hflat template context ht hc⟩, ?_⟩
  intro renderer event delivery text body htext hbody
  rw [renderDeliveryBody_asked oracle renderer event delivery htext hbody]
  constructor
  · intro hallow
    rw [hallow]
    rfl
  · intro ht hc
    cases hallow : delivery.allow_dynamic_tokens with
    | true => exact hflat text _ ht hc
    | false => rfl

/-- A title that closes a brace, next to a shell token. -/
theorem title_and_uptime :
    (renderTemplate (fun _ _ => some "up 3 days") "{title}: {sh:uptime}" [("title", "a \x7d b")]
      true).asked = ["sh:uptime"] := by
  have h := ((asks_for_spelled_groups fun _ _ => some "up 3 days").2.1 "{title}: {sh:uptime}"
    [("title", "a \x7d b")] (by decide) (by decide)).2
  rw [h]
  decide

/-- Event data does introduce a token where its value opens a brace: a title can hold a shell token
that the template does not spell, and contexts with the same keys then ask for different tokens. -/
theorem title_introduces_shell_token :
    ¬ ∀ (oracle : Oracle) (template : String) (c₁ c₂ : OrdMap String String) (allow : Bool),
      c₁.keys = c₂.keys → (renderTemplate oracle template c₁ allow).asked =
        (renderTemplate oracle template c₂ allow).asked := by
  intro h
  have hboom : (renderTemplate (fun _ _ => none) "{title}" [("title", "boom")] true).asked = [] := by
    rw [renderTemplate_of_flat _ (by decide) (by decide), onePass_asked]
    decide
  have hshell : (renderTemplate (fun _ _ => none) "{title}" [("title", "{sh:id}")] true).asked = ["sh:id"] := by
    have hrendered : (renderContext "{title}" [("title", "{sh:id}")]).toList =
        BraceText.write [.group "sh:id".toList] none := by decide
    unfold renderTemplate
    rw [if_pos rfl, hrendered, expand_write (by decide) (by simp)]
    rfl
  have heq := h (fun _ _ => none) "{title}" [("title", "boom")] [("title", "{sh:id}")] true rfl
  rw [hboom, hshell] at heq
  simp at heq

end Router

end Clawhip
