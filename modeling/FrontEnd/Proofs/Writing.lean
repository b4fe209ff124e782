import FrontEnd.Grammar.Report
import FrontEnd.Proofs.Runs

namespace FrontEnd

namespace Text

/-! ### Bytes -/

theorem toList_loop (bytes : ByteArray) (i : Nat) (read : List UInt8) :
    ByteArray.toList.loop bytes i read = read.reverse ++ bytes.data.toList.drop i := by
  fun_induction ByteArray.toList.loop bytes i read with
  | case1 i read hi ih =>
    have hlt : i < bytes.data.toList.length := hi
    have hget : bytes.get! i = bytes.data.toList[i] := by
      rw [Array.getElem_toList]
      exact getElem!_pos bytes.data i hi
    rw [ih, List.drop_eq_getElem_cons hlt, hget]
    simp
  | case2 i read hi =>
    have hle : bytes.data.toList.length ≤ i := Nat.le_of_not_lt hi
    rw [List.drop_eq_nil_of_le hle, List.append_nil]

theorem bytes_append (s t : String) :
    (s ++ t).toUTF8.toList = s.toUTF8.toList ++ t.toUTF8.toList := by
  have hdata (bytes : ByteArray) : bytes.toList = bytes.data.toList := by
    rw [ByteArray.toList, toList_loop]
    simp
  simp only [hdata, String.toUTF8_eq_toByteArray, String.toByteArray_append,
    ByteArray.toList_data_append]

namespace Sink

/-! ### Pieces -/

section Write

variable {s : Sink} {bytes : List UInt8}

theorem write_of_le (h : bytes.length ≤ s.room) :
    s.write bytes = .done ⟨s.room - bytes.length, s.written ++ bytes⟩ :=
  if_pos h

theorem write_of_lt (h : s.room < bytes.length) :
    s.write bytes = .full ⟨0, s.written ++ bytes.take s.room⟩ :=
  if_neg (Nat.not_le_of_lt h)

end Write

theorem write_nil (s : Sink) : s.write [] = .done s := by
  have h : s.write [] = .done ⟨s.room - 0, s.written ++ []⟩ := write_of_le (Nat.zero_le s.room)
  rwa [List.append_nil] at h

/-- What follows is written where the first bytes are done, and nowhere if they are not. -/
theorem write_append (s : Sink) (first more : List UInt8) :
    s.write (first ++ more) =
      match s.write first with
      | .done s => s.write more
      | .full s => .full s := by
  have hlength : (first ++ more).length = first.length + more.length := List.length_append
  rcases Nat.lt_or_ge s.room first.length with hfirst | hfirst
  · rw [write_of_lt hfirst, write_of_lt (by omega),
      List.take_append_of_le_length (Nat.le_of_lt hfirst)]
  · rw [write_of_le hfirst]
    show s.write (first ++ more) = write ⟨s.room - first.length, s.written ++ first⟩ more
    rcases Nat.lt_or_ge (s.room - first.length) more.length with hmore | hmore
    · rw [write_of_lt (s := ⟨_, _⟩) hmore, write_of_lt (by omega), List.take_append,
        List.take_of_length_le hfirst, List.append_assoc]
    · rw [write_of_le (s := ⟨_, _⟩) hmore, write_of_le (by omega), hlength, Nat.sub_sub,
        List.append_assoc]

theorem writeAll_eq (s : Sink) (texts : List String) :
    s.writeAll texts = s.write (String.join texts).toUTF8.toList := by
  induction texts generalizing s with
  | nil =>
    have hempty : (String.join []).toUTF8.toList = [] := by
      rw [String.join_nil]
      exact ByteArray.toList_empty
    rw [hempty, write_nil, writeAll]
  | cons text texts ih =>
    rw [String.join_cons, bytes_append, write_append, writeAll]
    cases s.write text.toUTF8.toList with
    | done s => exact ih s
    | full s => rfl

theorem writeAll_append (s : Sink) (texts more : List String) :
    s.writeAll (texts ++ more) =
      match s.writeAll texts with
      | .done s => s.writeAll more
      | .full s => .full s := by
  simp only [writeAll_eq, String.join_append, bytes_append]
  exact write_append s _ _

/-! ### Programs that write -/

/-- The program writes some texts one after the other, and does nothing else. -/
def Writes (w : Writing Unit) (texts : List String) : Prop := ∀ s, w.result s = s.writeAll texts

namespace Writes

variable {w v : Writing Unit} {texts more : List String}

theorem nothing : Writes (pure ()) [] := fun _ => rfl

theorem put (text : String) : Writes (put text) [text] := by
  intro s
  rw [writeAll, Writing.result, EStateM.run, Sink.put]
  cases s.write text.toUTF8.toList with
  | done s => rfl
  | full s => rfl

theorem bind (hw : Writes w texts) (hv : Writes v more) :
    Writes (w >>= fun _ => v) (texts ++ more) := by
  intro s
  rw [writeAll_append, ← hw s, Writing.result, Writing.result, EStateM.run_bind]
  cases w.run s with
  | ok _ s => exact hv s
  | error _ s => rfl

theorem forM {γ : Type} {f : γ → Writing Unit} {pieces : γ → List String}
    (h : ∀ x, Writes (f x) (pieces x)) (xs : List γ) : Writes (xs.forM f) (xs.flatMap pieces) := by
  induction xs with
  | nil => exact nothing
  | cons x xs ih => exact (h x).bind ih

end Writes

/-! ### Portions -/

/-- How many of the bytes that it is offered a sink takes at a time: at least one if there is
room, and no more than fit. -/
structure Portions where
  size : Sink → List UInt8 → Nat
  size_pos : ∀ s bytes, 0 < s.room → bytes ≠ [] → 0 < size s bytes
  size_le_room : ∀ s bytes, size s bytes ≤ s.room
  size_le_length : ∀ s bytes, size s bytes ≤ bytes.length

/-- Offers to a sink what is left of some bytes until it has taken all, or takes none. -/
def offer (p : Portions) (s : Sink) (bytes : List UInt8) : Result :=
  if hbytes : bytes = [] then .done s
  else
    let n := p.size s bytes
    if hn : n = 0 then .full s
    else
      have : (bytes.drop n).length < bytes.length := by
        have := List.length_pos_iff.2 hbytes
        rw [List.length_drop]
        omega
      offer p ⟨s.room - n, s.written ++ bytes.take n⟩ (bytes.drop n)
termination_by bytes.length

theorem offer_eq_write (p : Portions) (s : Sink) (bytes : List UInt8) :
    s.offer p bytes = s.write bytes := by
  fun_induction offer p s bytes with
  | case1 s => exact (write_nil s).symm
  | case2 s bytes hbytes n hn =>
    -- a sink takes nothing only if there is no room
    have hroom : s.room = 0 := by
      refine (Nat.eq_zero_or_pos s.room).resolve_right fun hpos => ?_
      exact Nat.ne_of_gt (p.size_pos s bytes hpos hbytes) hn
    rw [write_of_lt (hroom ▸ List.length_pos_iff.2 hbytes), hroom, List.take_zero,
      List.append_nil, ← hroom]
  | case3 s bytes hbytes n hn _ ih =>
    have hlength : (bytes.take n).length = n :=
      List.length_take_of_le (p.size_le_length s bytes)
    have hfits : (bytes.take n).length ≤ s.room := hlength.symm ▸ p.size_le_room s bytes
    calc offer p ⟨s.room - n, s.written ++ bytes.take n⟩ (bytes.drop n)
      _ = write ⟨s.room - n, s.written ++ bytes.take n⟩ (bytes.drop n) := ih
      _ = s.write (bytes.take n ++ bytes.drop n) := by rw [write_append, write_of_le hfits, hlength]
      _ = s.write bytes := by rw [List.take_append_drop]

def offerAll (p : Portions) (s : Sink) : List String → Result
  | [] => .done s
  | text :: texts =>
    match s.offer p text.toUTF8.toList with
    | .done s => s.offerAll p texts
    | .full s => .full s

theorem offerAll_eq_writeAll (p : Portions) (s : Sink) (texts : List String) :
    s.offerAll p texts = s.writeAll texts := by
  induction texts generalizing s with
  | nil => rfl
  | cons text texts ih =>
    rw [offerAll, writeAll, offer_eq_write]
    cases s.write text.toUTF8.toList with
    | done s => exact ih s
    | full s => rfl

end Sink
end Text

namespace Grammar.Report

open Text Text.Sink

variable {α : Type}

/-! ### Reports -/

theorem writes_production (p : Production α) : Writes (writeProduction p) (productionPieces p) := by
  unfold writeProduction
  rw [productionPieces, List.append_assoc]
  refine (Writes.put _).bind ?_
  by_cases h : p.precedence = default
  · rw [if_neg fun hne => hne h, if_pos h]
    exact Writes.put _
  · rw [if_pos h, if_neg h]
    exact (Writes.put _).bind (Writes.put _)

theorem writes_set (label name : String) (s : OrderedSet String) :
    Writes (writeSet label name s) (setPieces label name s) := by
  unfold writeSet
  rw [setPieces, List.append_assoc, List.append_assoc, List.map_eq_flatMap]
  refine (Writes.put _).bind ?_
  have hmembers := (Writes.forM (fun t => Writes.put (t ++ ", "))
    (s.toList.filter (· != emptyMark))).bind (Writes.put "\x7d\n")
  by_cases h : emptyMark ∈ s
  · rw [if_pos h, if_pos h]
    exact (Writes.put _).bind hmembers
  · rw [if_neg h, if_neg h]
    exact hmembers

theorem writes_table (g : Grammar α) (label : String) (table : SymbolSets) :
    Writes (writeTable g label table) (tablePieces g label table) := by
  refine Writes.forM (fun name => ?_) _
  cases table.get? name with
  | none => exact Writes.nothing
  | some s => exact writes_set label name s

/-- Every report writes its pieces, and stops at the first that does not fit. -/
theorem writes_pieces (r : Report) (g : Grammar α) : Writes (r.write g) (r.pieces g) := by
  cases r with
  | productions => exact (Writes.put _).bind (Writes.forM writes_production _)
  | sets =>
    have htables := Writes.forM (fun entry : String × SymbolSets => writes_table g entry.1 entry.2)
      [("FIRST", g.first), ("FOLLOW", g.follow)]
    rwa [List.flatMap_cons, List.flatMap_cons, List.flatMap_nil, List.append_nil] at htables
  | items =>
    refine Writes.forM (fun p => ?_) _
    have hitems := (Writes.forM (fun i => Writes.put (itemPiece i)) p.items).bind (Writes.put "\n")
    rwa [← List.map_eq_flatMap] at hitems

/-- A report on a sink with a limit writes all of its text if that fits, and otherwise finds the
sink full with the first bytes of the text up to the limit. So it does whatever the pieces in which
the text comes, and the portions in which the sink takes them. -/
theorem writeWithin_exact (r : Report) (g : Grammar α) (limit : Nat) :
    let bytes := (r.text g).toUTF8.toList
    let result : Sink.Result :=
      if bytes.length ≤ limit then .done ⟨limit - bytes.length, bytes⟩
      else .full ⟨0, bytes.take limit⟩
    r.writeWithin g limit = result ∧
    ∀ (p : Sink.Portions) (texts : List String), String.join texts = r.text g →
      Sink.offerAll p { room := limit } texts = result := by
  intro bytes result
  have hwrite (texts : List String) (h : String.join texts = r.text g) :
      Sink.writeAll { room := limit } texts = result := by
    rw [Sink.writeAll_eq, h]
    rfl
  refine ⟨(writes_pieces r g _).trans (hwrite (r.pieces g) rfl), fun p texts h => ?_⟩
  rw [Sink.offerAll_eq_writeAll]
  exact hwrite texts h

def bytewise : Sink.Portions where
  size s bytes := min 1 (min s.room bytes.length)
  size_pos s bytes hroom hbytes := by
    have := List.length_pos_iff.2 hbytes
    omega
  size_le_room s bytes := by omega
  size_le_length s bytes := by omega

/-- The limit falls into the middle of a letter. -/
theorem writeWithin_exact_letter :
    let g := (ofTerminals ["é"] : Grammar Unit).performAll
      [.addProduction "s" ["é"] none none, .storeFirst, .buildItems]
    let texts := ["PS,1\n\nP,1,s -> é", "", "\n"]
    String.join texts = productions.text g ∧
      Sink.offerAll bytewise { room := 16 } texts =
        .full ⟨0, "PS,1\n\nP,1,s -> ".toUTF8.toList ++ [0xc3]⟩ ∧
      sets.writeWithin g 10 = .full ⟨0, "FIRST,s,\x7b".toUTF8.toList ++ [0xc3]⟩ ∧
      items.writeWithin g 14 = .full ⟨0, "I,1,0,s -> . ".toUTF8.toList ++ [0xc3]⟩ := by
  intro g texts
  have htexts : String.join texts = productions.text g := by decide +kernel
  rw [(writeWithin_exact productions g 16).2 bytewise texts htexts,
    (writeWithin_exact sets g 10).1, (writeWithin_exact items g 14).1]
  exact ⟨htexts, by decide +kernel, by decide +kernel, by decide +kernel⟩

end Grammar.Report
end FrontEnd
