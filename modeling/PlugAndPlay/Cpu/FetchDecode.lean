import PlugAndPlay.Cpu.Ciclo
import PlugAndPlay.Memoria.Scripts

/-!
# Fetch and decode

Kernel Memory answers a program counter behind the last instruction with the empty string, and
`fetch_instruccion` looks only for a missing answer. The empty string has no token, so the CPU dies where the
process should have been handed back.
-/

open PlugAndPlay.Library

namespace PlugAndPlay.Cpu

open Memoria

/-- How the first half of a turn of `ejecutar_ciclo_instruccion` ends: an instruction to execute,
`manejar_error_fetch`, which hands the process back with `MOTIVO_ERROR`, or the death of the CPU. -/
inductive Busqueda
  | instruccion (instr : Instruccion)
  | motivoError
  | muerta
deriving DecidableEq

/-- `fetch_instruccion` with what came from Kernel Memory, if anything did. -/
def buscar (stringSplit : String → String → List String) : Option String → Busqueda
  | none => .motivoError
  | some linea =>
    match decodeInstruccion stringSplit linea with
    | none => .muerta
    | some instr => .instruccion instr

/-- The tokens of a line that are not empty, as `string_split` of the commons library returns them. -/
def palabras (linea : String) : List String :=
  ((LineReader.lines ' ' linea.toList).filter (· ≠ [])).map String.ofList

/-- An instruction with a name and as many parameters as there are further tokens, or the process handed back. -/
def Busqueda.Sobrevive (linea : String) : Busqueda → Prop
  | .instruccion instr => instr.nombre :: instr.parametros = palabras (quitarBlancosFinales linea)
  | .motivoError => True
  | .muerta => False

instance (linea : String) : (busqueda : Busqueda) → Decidable (busqueda.Sobrevive linea)
  | .instruccion _ => inferInstanceAs (Decidable (_ = _))
  | .motivoError => .isTrue trivial
  | .muerta => .isFalse id

/-! ## Decoding -/

/-- A line that does not begin with a space has a token. -/
theorem palabras_ne_nil {c : Char} (hc : c ≠ ' ') (resto : List Char) :
    palabras (String.ofList (c :: resto)) ≠ [] := by
  have hprimera : ∃ palabra otras, LineReader.lines ' ' (c :: resto) = (c :: palabra) :: otras := by
    rw [LineReader.lines, if_neg hc]
    split
    · exact ⟨[], [], rfl⟩
    · exact ⟨_, _, rfl⟩
  obtain ⟨palabra, otras, hlines⟩ := hprimera
  rw [palabras, String.toList_ofList, hlines]
  simp

theorem quitarBlancosFinales_cons (c : Char) (resto : List Char) :
    ∃ resto', quitarBlancosFinales (String.ofList (c :: resto)) = String.ofList (c :: resto') := by
  refine ⟨(resto.reverse.dropWhile isspace).reverse, ?_⟩
  rw [quitarBlancosFinales, String.toList_ofList]

section

variable {stringSplit : String → String → List String}
  (hsplit : ∀ linea, stringSplit linea " " = palabras linea)
include hsplit

/-- Decoding survives exactly the lines with a token. -/
theorem sobrevive_buscar_iff (linea : String) :
    (buscar stringSplit (some linea)).Sobrevive linea ↔ palabras (quitarBlancosFinales linea) ≠ [] := by
  simp only [buscar, decodeInstruccion, hsplit]
  cases hpalabras : palabras (quitarBlancosFinales linea) with
  | nil => simp [Busqueda.Sobrevive]
  | cons nombre parametros => simp [Busqueda.Sobrevive, hpalabras]

/-- For a process with a loaded script, fetch and decode survive exactly the program counters of its
instructions. -/
theorem fetch_sobrevive_iff {procesos : List Proceso} {pid : ℤ} {proc : Proceso} (texto : List Char)
    (hproc : procesosBuscar procesos pid = some proc) (hcargado : proc.instrucciones = instruccionesDe texto)
    (pc : UInt32) :
    (buscar stringSplit (some (manejarObtenerInstruccion procesos pid pc))).Sobrevive
        (manejarObtenerInstruccion procesos pid pc) ↔
      pc.toNat < proc.instrucciones.length := by
  have hlinea : manejarObtenerInstruccion procesos pid pc = proc.instrucciones[pc.toNat]?.getD "" := by
    rw [manejarObtenerInstruccion, hproc]
  rw [sobrevive_buscar_iff hsplit, hlinea]
  by_cases hpc : pc.toNat < proc.instrucciones.length
  · have hmem : proc.instrucciones[pc.toNat] ∈ instruccionesDe texto := hcargado ▸ List.getElem_mem hpc
    obtain ⟨c, resto, heq, hc⟩ := exists_cons_of_mem_instruccionesDe hmem
    obtain ⟨resto', hquitada⟩ := quitarBlancosFinales_cons c resto
    rw [List.getElem?_eq_getElem hpc, Option.getD_some, heq, hquitada]
    exact iff_of_true (palabras_ne_nil hc resto') hpc
  · have hvacia : palabras (quitarBlancosFinales "") = [] := by decide
    rw [List.getElem?_eq_none (Nat.le_of_not_lt hpc), Option.getD_none, hvacia]
    exact iff_of_false (fun h ↦ h rfl) hpc

end

/-- A process that has loaded a script. -/
def procesoCon (texto : String) : Proceso := ⟨1, .cero, [], instruccionesDe texto.toList⟩

theorem fetch_sobrevive_dos :
    (buscar (fun linea _ ↦ palabras linea)
        (some (manejarObtenerInstruccion [procesoCon "# inicio\nNOOP\n\tSET AX 5"] 1 1))).Sobrevive
      (manejarObtenerInstruccion [procesoCon "# inicio\nNOOP\n\tSET AX 5"] 1 1) ↔
    (1 : UInt32).toNat < (procesoCon "# inicio\nNOOP\n\tSET AX 5").instrucciones.length :=
  fetch_sobrevive_iff (fun _ ↦ rfl) "# inicio\nNOOP\n\tSET AX 5".toList rfl rfl 1

section Muestra

local instance recepcionDeVuelta : Red.Recepcion := Red.recepcionTipica

/-- The instruction at the program counter of a context and the registers behind it. -/
def vuelta (procesos : List Proceso) (contexto : Contexto) : Option (Instruccion × Registros) :=
  match fetchInstruccion (fun linea _ ↦ palabras linea) procesos contexto with
  | none => none
  | some instr =>
    (executeInstruccion 64 [] contexto [] instr).map fun efecto ↦ (instr, efecto.registros)

/-- Fetch and decode at a program counter of the first process. -/
def sobreviveEn (texto : String) (pc : UInt32) : Prop :=
  (buscar (fun linea _ ↦ palabras linea) (some (manejarObtenerInstruccion [procesoCon texto] 1 pc))).Sobrevive
    (manejarObtenerInstruccion [procesoCon texto] 1 pc)

instance (texto : String) (pc : UInt32) : Decidable (sobreviveEn texto pc) :=
  inferInstanceAs (Decidable (Busqueda.Sobrevive _ _))

/-- A program that falls off its end, and one that jumps before its begin, come to a program counter at which
the CPU dies. -/
theorem fetch_muere :
    (vuelta [procesoCon "NOOP\n"] ⟨1, .cero, []⟩ = some (⟨"NOOP", []⟩, { Registros.cero with pc := 1 }) ∧
      ¬ sobreviveEn "NOOP\n" 1) ∧
    vuelta [procesoCon "SET PC -1\n"] ⟨1, .cero, []⟩ =
        some (⟨"SET", ["PC", "-1"]⟩, { Registros.cero with pc := 0xFFFFFFFF }) ∧
      ¬ sobreviveEn "SET PC -1\n" 0xFFFFFFFF := by
  decide +kernel

end Muestra

end PlugAndPlay.Cpu
