import PlugAndPlay.Library.LineReader
import Mathlib.Data.List.TakeWhile
import Mathlib.Tactic.Linarith

/-!
# Loading a script

`cargar_script` of `memory_procesos.c` reads a file through a buffer of 256 bytes and looks at one buffer after
the other. A significant line becomes one instruction where its content lies in one buffer; the rest of a long
comment may become an instruction.
-/

open PlugAndPlay.Library

namespace PlugAndPlay.Memoria

open LineReader (lines pieces readAll tagged)

/-- What is in a script, one character a byte; a text file has no zero byte. -/
structure ContenidoScript where
  texto : List Char
  sinNul : '\x00' ∉ texto

/-! ## The source -/

/-- The string that begins at a buffer ends at its first zero byte. -/
def cadenaC (buffer : List Char) : List Char := buffer.takeWhile (· ≠ '\x00')

/-- `skip_blanco_y_comentario`. -/
def skipBlancoYComentario (linea : List Char) : Option (List Char) :=
  match linea.dropWhile fun c ↦ c = ' ' || c = '\t' with
  | [] => none
  | c :: resto => if c = '\n' || c = '\r' || c = '#' then none else some (c :: resto)

/-- The body of the loop of `cargar_script`: the instruction that a buffer becomes. -/
def instruccionDe (linea : List Char) : List (List Char) :=
  match skipBlancoYComentario (cadenaC linea) with
  | none => []
  | some contenido => [contenido.takeWhile (· ≠ '\n')]

/-- The loop of `cargar_script` over what `fgets` returns, each buffer with the number of its line. The array
doubles when it is full, up to what an `int` counts: behind that `realloc` fails. -/
def cargarLineas : ℕ → List (ℕ × List Char) → List (ℕ × List Char) → Option (List (ℕ × List Char))
  | _, cargadas, [] => some cargadas
  | capacidad, cargadas, (numero, linea) :: leidas =>
    match skipBlancoYComentario (cadenaC linea) with
    | none => cargarLineas capacidad cargadas leidas
    | some contenido =>
      let ampliadas := cargadas ++ [(numero, contenido.takeWhile (· ≠ '\n'))]
      if cargadas.length = capacidad then
        if 2 * capacidad < 2 ^ 31 then cargarLineas (2 * capacidad) ampliadas leidas else none
      else cargarLineas capacidad ampliadas leidas

/-- `cargar_script` on the text of a file: its instructions, each with the number of the line it comes from, and
nothing where the array cannot grow. The buffer is `char linea[256]`. -/
def cargarScript (texto : List Char) : Option (List (ℕ × List Char)) :=
  cargarLineas 16 [] (readAll '\n' 256 texto.length 0 texto)

/-! ## The lines of a script -/

def esBlanco (c : Char) : Bool := c = ' ' || c = '\t' || c = '\r'

/-- A line without its leading blanks. -/
def contenidoDe (linea : List Char) : List Char := linea.dropWhile esBlanco

/-- Neither blank nor a comment. -/
def Significativa (linea : List Char) : Prop :=
  (contenidoDe linea).head? ≠ none ∧ (contenidoDe linea).head? ≠ some '#'

instance (linea : List Char) : Decidable (Significativa linea) := inferInstanceAs (Decidable (_ ∧ _))

/-- The instruction that a line stands for. -/
def instruccionDeLinea (linea : List Char) : List (List Char) :=
  if Significativa linea then [contenidoDe linea] else []

/-- The significant lines in file order, each with its number. -/
def lineasSignificativas (texto : List Char) : List (ℕ × List Char) :=
  tagged instruccionDeLinea 0 (lines '\n' texto)

/-- The content of a significant line lies in the last of its buffers, behind spaces and tabs only; no buffer of
another line begins like an instruction. -/
def LineaEntera (linea : List Char) : Prop :=
  if Significativa linea then
    ∃ blancos, (∀ c ∈ blancos, c = ' ' ∨ c = '\t') ∧
      (pieces 255 linea).getLast? = some (blancos ++ contenidoDe linea)
  else ∀ pieza ∈ pieces 255 linea, skipBlancoYComentario pieza = none

/-! ## One buffer -/

section

variable {linea resto : List Char} {c : Char}

theorem cadenaC_eq (h : '\x00' ∉ linea) : cadenaC linea = linea := by
  apply List.takeWhile_eq_self_iff.mpr
  intro c hc
  simp only [ne_eq, decide_eq_true_eq]
  exact fun heq ↦ h (heq ▸ hc)

theorem skip_eq_none_of_blancos (h : ∀ c ∈ linea, esBlanco c) : skipBlancoYComentario linea = none := by
  unfold skipBlancoYComentario
  cases hresto : linea.dropWhile fun c ↦ c = ' ' || c = '\t' with
  | nil => rfl
  | cons c resto =>
    have hmem : c ∈ linea := (List.dropWhile_sublist _).subset (hresto ▸ List.mem_cons_self)
    have hhead := List.head?_dropWhile_not (fun c ↦ c = ' ' || c = '\t') linea
    have hblanco := h c hmem
    simp only [hresto, List.head?_cons] at hhead
    simp_all [esBlanco]

/-- What is kept of a buffer follows spaces and tabs. -/
theorem exists_blancos_of_skip (h : skipBlancoYComentario linea = some resto) :
    ∃ blancos, (∀ c ∈ blancos, c = ' ' ∨ c = '\t') ∧ linea = blancos ++ resto := by
  have hresto : linea.dropWhile (fun c ↦ c = ' ' || c = '\t') = resto := by
    unfold skipBlancoYComentario at h
    split at h
    next => cases h
    next hlinea =>
      split at h
      · cases h
      · exact hlinea.trans (Option.some.inj h)
  refine ⟨linea.takeWhile fun c ↦ c = ' ' || c = '\t', fun c hc ↦ ?_, ?_⟩
  · simpa using List.mem_takeWhile_imp hc
  · rw [← hresto, List.takeWhile_append_dropWhile]

theorem skip_append {blancos : List Char} (hblancos : ∀ c ∈ blancos, c = ' ' ∨ c = '\t')
    (hc : esBlanco c = false) (hcomentario : c ≠ '#') (hnewline : c ≠ '\n') :
    skipBlancoYComentario (blancos ++ c :: resto) = some (c :: resto) := by
  have hresto : (blancos ++ c :: resto).dropWhile (fun c ↦ c = ' ' || c = '\t') = c :: resto := by
    rw [List.dropWhile_append_of_pos (by simpa using hblancos), List.dropWhile_cons_of_neg]
    simp_all [esBlanco]
  unfold skipBlancoYComentario
  rw [hresto]
  simp_all [esBlanco]

theorem skip_newline (linea : List Char) :
    skipBlancoYComentario (linea ++ ['\n']) = (skipBlancoYComentario linea).map (· ++ ['\n']) := by
  unfold skipBlancoYComentario
  rw [List.dropWhile_append]
  cases linea.dropWhile fun c ↦ c = ' ' || c = '\t' with
  | nil => rfl
  | cons c resto =>
    simp only [List.isEmpty_cons, Bool.false_eq_true, if_false, List.cons_append]
    split <;> rfl

/-- The newline that `fgets` keeps does not show in the instruction. -/
theorem instruccionDe_newline (linea : List Char) : instruccionDe (linea ++ ['\n']) = instruccionDe linea := by
  unfold instruccionDe
  by_cases hnul : '\x00' ∈ linea
  · have hcadena : cadenaC (linea ++ ['\n']) = cadenaC linea :=
      LineReader.takeWhile_append_of_mem hnul rfl _
    rw [hcadena]
  · have hambas : '\x00' ∉ linea ++ ['\n'] := by simp [hnul]
    rw [cadenaC_eq hnul, cadenaC_eq hambas, skip_newline]
    cases skipBlancoYComentario linea with
    | none => rfl
    | some resto =>
      have hresto : (resto ++ ['\n']).takeWhile (· ≠ '\n') = resto.takeWhile (· ≠ '\n') := by
        rw [List.takeWhile_append]
        split
        next hlargo => simpa using ((List.takeWhile_prefix _).eq_of_length hlargo).symm
        next => rfl
      simp only [Option.map_some, hresto]

theorem instruccionDe_eq (hnewline : '\n' ∉ linea) (hnul : '\x00' ∉ linea) :
    instruccionDe linea = (skipBlancoYComentario linea).toList := by
  unfold instruccionDe
  rw [cadenaC_eq hnul]
  cases hskip : skipBlancoYComentario linea with
  | none => rfl
  | some resto =>
    obtain ⟨blancos, -, rfl⟩ := exists_blancos_of_skip hskip
    have hresto : resto.takeWhile (· ≠ '\n') = resto := by
      apply List.takeWhile_eq_self_iff.mpr
      intro c hc
      have hne : c ≠ '\n' := fun heq ↦ hnewline (heq ▸ List.mem_append_right _ hc)
      simpa using hne
    simp only [hresto, Option.toList_some]

end

/-! ## One line -/

section

variable {linea : List Char}

theorem esBlanco_of_append_contenidoDe {blancos : List Char} (h : linea = blancos ++ contenidoDe linea) :
    ∀ c ∈ blancos, esBlanco c := by
  have hpartes : linea.takeWhile esBlanco ++ contenidoDe linea = blancos ++ contenidoDe linea :=
    List.takeWhile_append_dropWhile.trans h
  have hblancos : linea.takeWhile esBlanco = blancos := List.append_cancel_right hpartes
  intro c hc
  exact List.mem_takeWhile_imp (hblancos ▸ hc)

/-- The content of a significant line begins with something that is neither blank nor a comment. -/
theorem Significativa.exists_cons (h : Significativa linea) :
    ∃ c resto, contenidoDe linea = c :: resto ∧ esBlanco c = false ∧ c ≠ '#' := by
  obtain ⟨hnone, hcomentario⟩ := h
  cases hcontenido : contenidoDe linea with
  | nil => exact absurd (by rw [hcontenido]; rfl) hnone
  | cons c resto =>
    have hblanco := List.head?_dropWhile_not esBlanco linea
    rw [← contenidoDe, hcontenido] at hblanco
    refine ⟨c, resto, rfl, by simpa using hblanco, ?_⟩
    rintro rfl
    exact hcomentario (by rw [hcontenido]; rfl)

variable (hnewline : '\n' ∉ linea) (hnul : '\x00' ∉ linea)
include hnewline hnul

theorem flatMap_instruccionDe :
    (pieces 255 linea).flatMap instruccionDe =
      (pieces 255 linea).flatMap fun pieza ↦ (skipBlancoYComentario pieza).toList := by
  apply List.flatMap_congr
  intro pieza hpieza
  have hsub : ∀ c ∈ pieza, c ∈ linea := by
    intro c hc
    rw [← LineReader.flatten_pieces 255 linea]
    exact List.mem_flatten.mpr ⟨pieza, hpieza, hc⟩
  exact instruccionDe_eq (fun h ↦ hnewline (hsub _ h)) fun h ↦ hnul (hsub _ h)

/-- Where the content lies in the last buffer, the line becomes its content. -/
theorem flatMap_of_ultima {blancos : List Char} (hsig : Significativa linea)
    (hblancos : ∀ c ∈ blancos, c = ' ' ∨ c = '\t')
    (hultima : (pieces 255 linea).getLast? = some (blancos ++ contenidoDe linea)) :
    (pieces 255 linea).flatMap instruccionDe = [contenidoDe linea] := by
  obtain ⟨c, resto, hcontenido, hblanco, hcomentario⟩ := hsig.exists_cons
  obtain ⟨previas, hpiezas⟩ := List.getLast?_eq_some_iff.mp hultima
  have hlinea : linea = (previas.flatten ++ blancos) ++ contenidoDe linea := by
    conv_lhs => rw [← LineReader.flatten_pieces 255 linea, hpiezas]
    simp
  have hprevias : ∀ pieza ∈ previas, skipBlancoYComentario pieza = none := by
    intro pieza hpieza
    apply skip_eq_none_of_blancos
    intro c' hc'
    apply esBlanco_of_append_contenidoDe hlinea
    exact List.mem_append_left _ (List.mem_flatten.mpr ⟨pieza, hpieza, hc'⟩)
  have hc : c ≠ '\n' := by
    rintro rfl
    apply hnewline
    rw [hlinea, hcontenido]
    simp
  have hskip : skipBlancoYComentario (blancos ++ c :: resto) = some (c :: resto) :=
    skip_append hblancos hblanco hcomentario hc
  rw [flatMap_instruccionDe hnewline hnul, hpiezas, List.flatMap_append, hcontenido, List.flatMap_singleton,
    hskip]
  simpa using hprevias

/-- Where the line becomes its content, the content lies in the last buffer: behind a buffer that holds it,
nothing of the line is left. -/
theorem ultima_of_flatMap (hsig : Significativa linea)
    (h : (pieces 255 linea).flatMap instruccionDe = [contenidoDe linea]) :
    ∃ blancos, (∀ c ∈ blancos, c = ' ' ∨ c = '\t') ∧
      (pieces 255 linea).getLast? = some (blancos ++ contenidoDe linea) := by
  obtain ⟨c, resto, hcontenido, hblanco, -⟩ := hsig.exists_cons
  rw [flatMap_instruccionDe hnewline hnul] at h
  have hmem : contenidoDe linea ∈ (pieces 255 linea).flatMap fun pieza ↦ (skipBlancoYComentario pieza).toList :=
    h ▸ List.mem_singleton_self _
  obtain ⟨pieza, hpieza, hskip⟩ := List.mem_flatMap.mp hmem
  obtain ⟨blancos, hblancos, rfl⟩ := exists_blancos_of_skip (Option.mem_toList.mp hskip)
  obtain ⟨previas, siguientes, hpiezas⟩ := List.append_of_mem hpieza
  refine ⟨blancos, hblancos, ?_⟩
  cases siguientes with
  | nil => exact List.getLast?_eq_some_iff.mpr ⟨previas, hpiezas⟩
  | cons siguiente siguientes =>
    exfalso
    have hne : linea ≠ [] := by
      rintro rfl
      cases hcontenido
    have hmem : siguiente ∈ pieces 255 linea := by
      rw [hpiezas]
      simp
    have hsiguiente : siguiente ≠ [] := LineReader.ne_nil_of_mem_pieces hne hmem
    have hlinea : linea = (previas.flatten ++ blancos) ++ c :: (resto ++ (siguiente ++ siguientes.flatten)) := by
      conv_lhs => rw [← LineReader.flatten_pieces 255 linea, hpiezas]
      simp [hcontenido]
    have hpartes : linea.takeWhile esBlanco ++ contenidoDe linea = linea := List.takeWhile_append_dropWhile
    -- The first character of the content would be one of the leading blanks.
    have hlargo : (previas.flatten ++ blancos).length < (linea.takeWhile esBlanco).length := by
      have hsuma := congrArg List.length (hpartes.trans hlinea)
      have hpos := List.length_pos_iff.mpr hsiguiente
      simp only [hcontenido, List.length_append, List.length_cons] at hsuma ⊢
      omega
    have hmem : (linea.takeWhile esBlanco)[(previas.flatten ++ blancos).length]? = some c := by
      calc (linea.takeWhile esBlanco)[(previas.flatten ++ blancos).length]?
          = (linea.takeWhile esBlanco ++ contenidoDe linea)[(previas.flatten ++ blancos).length]? :=
            (List.getElem?_append_left hlargo).symm
        _ = linea[(previas.flatten ++ blancos).length]? := by rw [hpartes]
        _ = some c := by rw [hlinea, List.getElem?_append_right (Nat.le_refl _), Nat.sub_self]; rfl
    have hblanco' := List.mem_takeWhile_imp (List.mem_of_getElem? hmem)
    rw [hblanco] at hblanco'
    cases hblanco'

/-- The buffers of a line become its instruction exactly where the line is whole. -/
theorem lineaEntera_iff :
    (pieces 255 linea).flatMap instruccionDe = instruccionDeLinea linea ↔ LineaEntera linea := by
  unfold instruccionDeLinea LineaEntera
  split
  next hsig =>
    constructor
    · exact ultima_of_flatMap hnewline hnul hsig
    · rintro ⟨blancos, hblancos, hultima⟩
      exact flatMap_of_ultima hnewline hnul hsig hblancos hultima
  next =>
    rw [flatMap_instruccionDe hnewline hnul, List.flatMap_eq_nil_iff]
    simp only [Option.toList_eq_nil_iff]

end

/-! ## A whole script -/

/-- The array holds what the buffers become as long as it can grow. -/
theorem cargarLineas_eq (leidas cargadas : List (ℕ × List Char)) {exponente : ℕ} (hexponente : exponente ≤ 30)
    (hle : cargadas.length ≤ 2 ^ exponente) :
    cargarLineas (2 ^ exponente) cargadas leidas =
      let todas := cargadas ++ leidas.flatMap fun entrada ↦ (instruccionDe entrada.2).map (entrada.1, ·)
      if todas.length ≤ 2 ^ 30 then some todas else none := by
  induction leidas generalizing cargadas exponente with
  | nil =>
    have htope : 2 ^ exponente ≤ 2 ^ 30 := Nat.pow_le_pow_right (by omega) hexponente
    simp only [cargarLineas, List.flatMap_nil, List.append_nil]
    rw [if_pos (hle.trans htope)]
  | cons leida leidas ih =>
    obtain ⟨numero, linea⟩ := leida
    cases hskip : skipBlancoYComentario (cadenaC linea) with
    | none =>
      have hnada : instruccionDe linea = [] := by
        unfold instruccionDe
        rw [hskip]
      simp only [cargarLineas, hskip, ih cargadas hexponente hle, List.flatMap_cons, hnada, List.map_nil, List.nil_append]
    | some contenido =>
      have hentrada : instruccionDe linea = [contenido.takeWhile (· ≠ '\n')] := by
        unfold instruccionDe
        rw [hskip]
      set ampliadas := cargadas ++ [(numero, contenido.takeWhile (· ≠ '\n'))] with hampliadas
      have hlargo : ampliadas.length = cargadas.length + 1 := List.length_append
      have htodas : cargadas ++ ((numero, linea) :: leidas).flatMap
            (fun entrada ↦ (instruccionDe entrada.2).map (entrada.1, ·)) =
          ampliadas ++ leidas.flatMap fun entrada ↦ (instruccionDe entrada.2).map (entrada.1, ·) := by
        rw [List.flatMap_cons, hentrada, hampliadas, List.append_assoc]
        rfl
      simp only [cargarLineas, hskip, htodas]
      by_cases hllena : cargadas.length = 2 ^ exponente
      · rw [if_pos hllena]
        by_cases hcrece : exponente < 30
        · have hdoble : 2 * 2 ^ exponente = 2 ^ (exponente + 1) := (Nat.pow_succ').symm
          have htope : 2 ^ (exponente + 1) < 2 ^ 31 := Nat.pow_lt_pow_right (by omega) (by omega)
          rw [hdoble, if_pos htope]
          have hpos : 0 < 2 ^ exponente := Nat.two_pow_pos exponente
          have hcabe : ampliadas.length ≤ 2 ^ (exponente + 1) := by omega
          exact ih _ hcrece hcabe
        · obtain rfl : exponente = 30 := by omega
          rw [if_neg (by decide), if_neg]
          rw [List.length_append]
          omega
      · rw [if_neg hllena]
        have hcabe : ampliadas.length ≤ 2 ^ exponente := by omega
        exact ih _ hexponente hcabe

theorem cargarScript_eq (texto : List Char) :
    cargarScript texto =
      let todas := tagged (fun linea ↦ (pieces 255 linea).flatMap instruccionDe) 0 (lines '\n' texto)
      if todas.length ≤ 2 ^ 30 then some todas else none := by
  have hleidas : (readAll '\n' 256 texto.length 0 texto).flatMap
        (fun entrada ↦ (instruccionDe entrada.2).map (entrada.1, ·)) =
      tagged (fun linea ↦ (pieces 255 linea).flatMap instruccionDe) 0 (lines '\n' texto) :=
    LineReader.readAll_flatMap rfl (fun linea _ ↦ instruccionDe_newline linea) (by omega) (Nat.le_refl _)
  have hcargadas := cargarLineas_eq (readAll '\n' 256 texto.length 0 texto) []
    (show 4 ≤ 30 by omega) (Nat.zero_le _)
  simp only [List.nil_append, hleidas] at hcargadas
  exact hcargadas

/-- What `manejar_crear_proceso` keeps of a script: nothing if it could not be loaded. -/
def instruccionesDe (texto : List Char) : List String :=
  ((cargarScript texto).getD []).map fun cargada ↦ String.ofList cargada.2

/-- An instruction begins with a character that is no space. -/
theorem exists_cons_of_mem_instruccionDe {linea instruccion : List Char} (h : instruccion ∈ instruccionDe linea) :
    ∃ c resto, instruccion = c :: resto ∧ c ≠ ' ' := by
  unfold instruccionDe at h
  split at h
  next => cases h
  next contenido hskip =>
    obtain rfl := List.mem_singleton.mp h
    unfold skipBlancoYComentario at hskip
    split at hskip
    next => cases hskip
    next c resto hdrop =>
      split at hskip
      · cases hskip
      · rename_i hfin
        obtain rfl := Option.some.inj hskip
        have hblanco := List.head?_dropWhile_not (fun c ↦ c = ' ' || c = '\t') (cadenaC linea)
        simp only [hdrop, List.head?_cons] at hblanco
        refine ⟨c, resto.takeWhile (· ≠ '\n'), ?_, ?_⟩
        · rw [List.takeWhile_cons_of_pos]
          simp_all
        · rintro rfl
          simp at hblanco

theorem exists_cons_of_mem_instruccionesDe {texto : List Char} {instruccion : String}
    (h : instruccion ∈ instruccionesDe texto) : ∃ c resto, instruccion = String.ofList (c :: resto) ∧ c ≠ ' ' := by
  obtain ⟨cargada, hcargada, rfl⟩ := List.mem_map.mp h
  have htodas := cargarLineas_eq (readAll '\n' 256 texto.length 0 texto) [] (show 4 ≤ 30 by omega)
    (Nat.zero_le _)
  simp only [List.nil_append] at htodas
  rw [show cargarScript texto = _ from htodas] at hcargada
  split at hcargada
  next =>
    obtain ⟨leida, -, hentrada⟩ := List.mem_flatMap.mp hcargada
    obtain ⟨instruccion, hinstruccion, rfl⟩ := List.mem_map.mp hentrada
    obtain ⟨c, resto, rfl, hc⟩ := exists_cons_of_mem_instruccionDe hinstruccion
    exact ⟨c, resto, rfl, hc⟩
  next => cases hcargada

/-- A script yields one instruction for each significant line, in file order, exactly where every line is whole
and the array can hold them. -/
theorem cargarScript_exacto (contenido : ContenidoScript) :
    cargarScript contenido.texto = some (lineasSignificativas contenido.texto) ↔
      (∀ linea ∈ lines '\n' contenido.texto, LineaEntera linea) ∧
        (lineasSignificativas contenido.texto).length ≤ 2 ^ 30 := by
  have henteras : tagged (fun linea ↦ (pieces 255 linea).flatMap instruccionDe) 0 (lines '\n' contenido.texto) =
        lineasSignificativas contenido.texto ↔
      ∀ linea ∈ lines '\n' contenido.texto, LineaEntera linea := by
    rw [lineasSignificativas, LineReader.tagged_eq_iff]
    apply forall₂_congr
    intro linea hlinea
    apply lineaEntera_iff
    · exact fun h ↦ (LineReader.mem_of_mem_lines hlinea h).2 rfl
    · exact fun h ↦ contenido.sinNul (LineReader.mem_of_mem_lines hlinea h).1
  rw [cargarScript_eq, ← henteras]
  constructor
  · intro h
    simp only at h
    split at h
    next htope =>
      have htodas := Option.some.inj h
      exact ⟨htodas, htodas ▸ htope⟩
    next => cases h
  · rintro ⟨htodas, htope⟩
    simp only [htodas, if_pos htope]

/-- A long comment whose rest is an instruction. -/
def comentarioLargo : List Char := '#' :: List.replicate 254 'x' ++ "EXIT\nNOOP\n".toList

theorem cargarScript_comentarioLargo :
    '\x00' ∉ comentarioLargo ∧
      lineasSignificativas comentarioLargo = [(1, "NOOP".toList)] ∧
      cargarScript comentarioLargo = some [(0, "EXIT".toList), (1, "NOOP".toList)] ∧
      cargarScript comentarioLargo ≠ some (lineasSignificativas comentarioLargo) := by
  decide +kernel

end PlugAndPlay.Memoria
