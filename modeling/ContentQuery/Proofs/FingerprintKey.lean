/-
# Fingerprints as keys of requests

The fingerprint of a query is the digest of its text, and a request has more than the text: the
fields to expand and to select are not in the text, and neither is a filter switch that only says
what the server does anyway. So queries of one fingerprint can ask for different things even where
no two texts have the same digest. Two queries can also have one text because a name or a pattern
in one of them reads like a directive of the other.

What the fingerprint does determine is the query text, and for plain queries the window, the count
of all pages and the two switches as far as they differ from the server's defaults. The requests
of plain queries with one fingerprint are equal exactly when their lists and their switches are.
-/

import ContentQuery.Proofs.Directive
import ContentQuery.Proofs.EqualityText
import ContentQuery.Query.Fingerprint
import ContentQuery.Retrieval.Request

namespace ContentQuery

/-! ## What is digested -/

namespace Fingerprint

theorem toList_loop_eq (octets : ByteArray) (i : Nat) (done : List UInt8) :
    ByteArray.toList.loop octets i done = done.reverse ++ octets.data.toList.drop i := by
  fun_induction ByteArray.toList.loop octets i done with
  | case1 i done hlt ih =>
      have hi : i < octets.data.toList.length := hlt
      have hoctet : octets.get! i = octets.data.toList[i] := getElem!_pos octets.data i hlt
      rw [ih, List.drop_eq_getElem_cons hi, hoctet, List.reverse_cons, List.append_assoc]
      rfl
  | case2 i done hge =>
      rw [List.drop_eq_nil_of_le (Nat.le_of_not_lt hge), List.append_nil]

theorem toList_inj {first second : ByteArray} (hsame : first.toList = second.toList) :
    first = second := by
  have htoList (octets : ByteArray) : octets.toList = octets.data.toList :=
    toList_loop_eq octets 0 []
  rw [htoList, htoList] at hsame
  exact ByteArray.ext (Array.toList_inj.mp hsame)

/-- The digested octets determine the text. -/
theorem preimage_inj {text text' : String} : preimage text = preimage text' ↔ text = text' := by
  constructor
  · intro hsame
    have hoctets := toList_inj (List.append_cancel_left hsame)
    exact String.toByteArray_inj.mp hoctets
  · rintro rfl
    rfl

end Fingerprint

/-! ## Requests of one fingerprint -/

namespace Query

/-- Queries whose fingerprints digest the same octets send the same text. If no directive starts
in their names and patterns, they ask for the same window and for the count of all pages alike,
and agree on which filter is switched away from the server's default. Their requests are then
equal exactly when they expand and select the same fields and their switches are the same. -/
theorem toRequest_of_preimage_eq {chain chain' : Expr} {options options' : QueryOptions}
    {q r : Query} (hq : chain.compile options = .ok q) (hr : chain'.compile options' = .ok r)
    (hkey : Fingerprint.preimage q.toText = Fingerprint.preimage r.toText) :
    q.toRequest.queryText = r.toRequest.queryText ∧
      (q.IsPlain → r.IsPlain →
        q.toRequest.top = r.toRequest.top ∧ q.toRequest.skip = r.toRequest.skip ∧
          q.toRequest.countAllPages = r.toRequest.countAllPages ∧
          (q.toRequest.autofilters = .disabled ↔ r.toRequest.autofilters = .disabled) ∧
          (q.toRequest.lifespan = .enabled ↔ r.toRequest.lifespan = .enabled) ∧
          (q.toRequest = r.toRequest ↔
            q.expand = r.expand ∧ q.select = r.select ∧ q.autofilters = r.autofilters ∧
              q.lifespan = r.lifespan)) := by
  have htext : q.toText = r.toText := Fingerprint.preimage_inj.mp hkey
  refine ⟨htext, fun hqPlain hrPlain => ?_⟩
  obtain ⟨-, -, hwrites⟩ := written_eq_of_toText_eq hq hr hqPlain hrPlain htext
  have htop : q.top = r.top := Option.ext fun count => hwrites (.top count)
  have hskip : q.skip = r.skip := Option.ext fun count => hwrites (.skip count)
  have hcount : q.countOnly = r.countOnly := Bool.eq_iff_iff.mpr (hwrites .countOnly)
  refine ⟨htop, hskip, hcount, hwrites .autofiltersOff, hwrites .lifespanOn, ?_⟩
  rw [toRequest, toRequest, Request.mk.injEq]
  constructor
  · rintro ⟨-, hautofilters, hlifespan, hexpand, hselect, -⟩
    exact ⟨hexpand, hselect, hautofilters, hlifespan⟩
  · rintro ⟨hexpand, hselect, hautofilters, hlifespan⟩
    exact ⟨htext, hautofilters, hlifespan, hexpand, hselect, htop, hskip, hcount⟩

/-- The first five users of a name, with and without the owners expanded. -/
theorem request_of_expanded_page :
    let page := (Expr.filtered "User" (.equalsText "Name" "Ann")).call "Take" [.literal (.int 5)]
    ∃ q r, page.compile .default = .ok q ∧
      page.compile { QueryOptions.default with expand := some ["Owner"] } = .ok r ∧
      Fingerprint.preimage q.toText = Fingerprint.preimage r.toText ∧ q.IsPlain ∧ r.IsPlain ∧
      q.toRequest.top = r.toRequest.top ∧ q.toRequest ≠ r.toRequest := by
  intro page
  have hq : page.compile .default =
      .ok { all with predicate := some (.hasValue "Name" (.text "ann")), top := some 5 } := by
    cbv
  have hr : page.compile { QueryOptions.default with expand := some ["Owner"] } =
      .ok { all with
        predicate := some (.hasValue "Name" (.text "ann")), top := some 5, expand := ["Owner"] } := by
    cbv
  refine ⟨_, _, hq, hr, rfl, by decide, by decide, ?_⟩
  obtain ⟨-, hplain⟩ := toRequest_of_preimage_eq hq hr rfl
  obtain ⟨htop, -, -, -, -, hequal⟩ := hplain (by decide) (by decide)
  exact ⟨htop, fun hsame => List.cons_ne_nil _ _ (hequal.mp hsame).1.symm⟩

/-- Two chains under options compile to queries whose fingerprints digest the same octets, but
whose requests differ. -/
def Collide (chain : Expr) (options : QueryOptions) (chain' : Expr) (options' : QueryOptions) :
    Prop :=
  ∃ q r, chain.compile options = .ok q ∧ chain'.compile options' = .ok r ∧
    Fingerprint.preimage q.toText = Fingerprint.preimage r.toText ∧ q.toRequest ≠ r.toRequest

/-- One text for different requests. Fields to expand are not in the text, and neither is a switch
that repeats the server's default. A pattern, the name of a field and that of a sort key can each
read like the directive of another query. -/
theorem fingerprint_is_no_request_key :
    Collide (.source "User") .default
      (.source "User") { QueryOptions.default with expand := some ["Owner"] } ∧
    Collide (.source "User") .default
      (.source "User") { QueryOptions.default with autofilters := .enabled } ∧
    Collide (.filtered "User" ((Expr.field "Name").endsWith (.literal (.text "x .TOP:5")))) .default
      ((Expr.filtered "User" ((Expr.field "Name").endsWith (.literal (.text "x")))).call "Take"
        [.literal (.int 5)]) .default ∧
    Collide (.filtered "User" (.or (.field "A") (.equalsText ".TOP" "5"))) .default
      ((Expr.filtered "User" (.field "A")).call "Take" [.literal (.int 5)]) .default ∧
    Collide
      ((Expr.source "User").call "OrderBy" [.lambda (.field "Name .AUTOFILTERS:OFF")]) .default
      ((Expr.source "User").call "OrderBy" [.lambda (.field "Name")])
        { QueryOptions.default with autofilters := .disabled } := by
  refine ⟨⟨all, { all with expand := ["Owner"] }, ?_⟩,
    ⟨all, { all with autofilters := .enabled }, ?_⟩,
    ⟨{ all with predicate := some (.wildcard "Name" "*x .TOP:5") },
      { all with predicate := some (.wildcard "Name" "*x"), top := some 5 }, ?_⟩,
    ⟨{ all with predicate := some (.should (.hasValue "A" (.bool true))
        (.hasValue ".TOP" (.text "5"))) },
      { all with predicate := some (.hasValue "A" (.bool true)), top := some 5 }, ?_⟩,
    ⟨{ all with sort := [⟨"Name .AUTOFILTERS:OFF", false⟩] },
      { all with sort := [⟨"Name", false⟩], autofilters := .disabled }, ?_⟩⟩ <;>
    exact ⟨by cbv, by cbv, congrArg Fingerprint.preimage (by cbv),
      by simp [toRequest, all, Settings.default]⟩

end Query

end ContentQuery
