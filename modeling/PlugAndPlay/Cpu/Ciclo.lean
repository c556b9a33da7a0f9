import PlugAndPlay.Cpu.MmuPlana
import PlugAndPlay.Library.StreamReader

/-!
# The instruction cycle

`cpu_ciclo.c` from the line of text to the registers and the sticks. `string_split` of the commons library is
a parameter. CPUs that know the sticks of the segments, over memories that agree on the segments, execute an
instruction alike.
-/

open PlugAndPlay.Library

namespace PlugAndPlay.Cpu

open Memoria
open Red (Recepcion)
open StreamReader (littleEndian ofLittleEndian)

/-! ## Decode -/

/-- `t_instruccion`; its flags are functions of the name. -/
structure Instruccion where
  nombre : String
  parametros : List String
deriving Repr, DecidableEq

def esInstruccionCpuMemoria (nombre : String) : Bool :=
  nombre = "MOV_IN" || nombre = "MOV_OUT" || nombre = "COPY_MEM"

def esSyscall (nombre : String) : Bool :=
  nombre = "SLEEP" || nombre = "STDIN" || nombre = "STDOUT" || nombre = "INIT_PROC" || nombre = "EXIT" ||
    nombre = "MEM_ALLOC" || nombre = "MEM_FREE" || nombre = "MUTEX_CREATE" || nombre = "MUTEX_LOCK" ||
    nombre = "MUTEX_UNLOCK"

/-- `isspace` of the C locale. -/
def isspace (c : Char) : Bool := c = ' ' || ('\t' ≤ c && c ≤ '\r')

/-- The loop at the start of `decode_instruccion`: it never takes the first character. -/
def quitarBlancosFinales (linea : String) : String :=
  match linea.toList with
  | [] => linea
  | primero :: resto => String.ofList (primero :: (resto.reverse.dropWhile isspace).reverse)

/-- `decode_instruccion`; nothing where the CPU dies because there is no token. -/
def decodeInstruccion (stringSplit : String → String → List String) (linea : String) :
    Option Instruccion :=
  match stringSplit (quitarBlancosFinales linea) " " with
  | [] => none
  | nombre :: parametros => some ⟨nombre, parametros⟩

/-- `manejar_obtener_instruccion`: a line out of range is empty. -/
def manejarObtenerInstruccion (procesos : List Proceso) (pid : ℤ) (pc : UInt32) : String :=
  match procesosBuscar procesos pid with
  | none => ""
  | some proc => proc.instrucciones[pc.toNat]?.getD ""

/-- `fetch_instruccion`. -/
def fetchInstruccion (stringSplit : String → String → List String) (procesos : List Proceso)
    (contexto : Contexto) : Option Instruccion :=
  decodeInstruccion stringSplit
    (manejarObtenerInstruccion procesos contexto.pid contexto.registros.pc)

/-- `atoi`: the number that `strtol` reads, kept in a `long` and cut to an `int`. -/
def atoi (texto : String) : Int32 :=
  let valor (digitos : List Char) : ℕ :=
    (digitos.takeWhile Char.isDigit).foldl (fun valor c ↦ 10 * valor + (c.toNat - '0'.toNat)) 0
  match texto.toList.dropWhile isspace with
  | '-' :: digitos => Int32.ofInt (max (-2 ^ 63) (-valor digitos))
  | '+' :: digitos => Int32.ofInt (min (2 ^ 63 - 1) (valor digitos))
  | digitos => Int32.ofInt (min (2 ^ 63 - 1) (valor digitos))

/-! ## Registers -/

/-- `obtener_valor_registro`. -/
def obtenerValorRegistro (reg : Registros) (nombreReg : String) : UInt32 :=
  match nombreReg with
  | "AX" => reg.ax.toUInt32
  | "BX" => reg.bx.toUInt32
  | "CX" => reg.cx.toUInt32
  | "DX" => reg.dx.toUInt32
  | "EAX" => reg.eax
  | "EBX" => reg.ebx
  | "ECX" => reg.ecx
  | "EDX" => reg.edx
  | "SI" => reg.si
  | "DI" => reg.di
  | _ => 0

/-- `asignar_valor_registro`. -/
def asignarValorRegistro (reg : Registros) (nombreReg : String) (valor : UInt32) : Registros :=
  match nombreReg with
  | "AX" => { reg with ax := valor.toUInt8 }
  | "BX" => { reg with bx := valor.toUInt8 }
  | "CX" => { reg with cx := valor.toUInt8 }
  | "DX" => { reg with dx := valor.toUInt8 }
  | "EAX" => { reg with eax := valor }
  | "EBX" => { reg with ebx := valor }
  | "ECX" => { reg with ecx := valor }
  | "EDX" => { reg with edx := valor }
  | "SI" => { reg with si := valor }
  | "DI" => { reg with di := valor }
  | _ => reg

/-- `sizeof_registro`. -/
def sizeofRegistro (nombre : String) : UInt32 :=
  match nombre with
  | "AX" | "BX" | "CX" | "DX" => 1
  | _ => 4

/-! ## Execute -/

/-- What an instruction leaves: the result, the registers, `pc_modificado` and the sticks. -/
structure Efecto where
  resultado : ResultadoExecute
  registros : Registros
  pcModificado : Bool
  tabla : List MemoryStick

section Execute

variable (contexto : Contexto) (tabla : List MemoryStick) (instr : Instruccion)

/-- The effect of an instruction that only looked at the registers. -/
def sinMemoria (resultado : ResultadoExecute) (registros : Registros) (pcModificado : Bool) : Efecto :=
  ⟨resultado, registros, pcModificado, tabla⟩

def ejecutarSet : Efecto :=
  match instr.parametros with
  | reg :: texto :: _ =>
    let valor := (atoi texto).toUInt32
    if reg = "PC" then sinMemoria tabla .continuar { contexto.registros with pc := valor } true
    else sinMemoria tabla .continuar (asignarValorRegistro contexto.registros reg valor) false
  | _ => sinMemoria tabla .error contexto.registros false

/-- The second operand of `SUM` and `SUB`. -/
def segundoOperando (registros : Registros) (orig : String) : UInt32 :=
  if orig.toList.head?.any Char.isDigit then (atoi orig).toUInt32
  else obtenerValorRegistro registros orig

/-- `ejecutar_sum` and `ejecutar_sub`, which differ in the operation. -/
def ejecutarOperacion (operacion : UInt32 → UInt32 → UInt32) : Efecto :=
  match instr.parametros with
  | dest :: orig :: _ =>
    let v1 := obtenerValorRegistro contexto.registros dest
    let v2 := segundoOperando contexto.registros orig
    sinMemoria tabla .continuar (asignarValorRegistro contexto.registros dest (operacion v1 v2)) false
  | _ => sinMemoria tabla .error contexto.registros false

def ejecutarSum : Efecto := ejecutarOperacion contexto tabla instr (· + ·)

def ejecutarSub : Efecto := ejecutarOperacion contexto tabla instr (· - ·)

def ejecutarJnz : Efecto :=
  match instr.parametros with
  | reg :: texto :: _ =>
    if obtenerValorRegistro contexto.registros reg ≠ 0 then
      sinMemoria tabla .continuar { contexto.registros with pc := (atoi texto).toUInt32 } true
    else sinMemoria tabla .continuar contexto.registros false
  | _ => sinMemoria tabla .error contexto.registros false

/-- The end of `execute_instruccion`: the next instruction, whatever the result is. -/
def Efecto.avanzarPc (efecto : Efecto) : Efecto :=
  if efecto.pcModificado then efecto
  else { efecto with registros := { efecto.registros with pc := efecto.registros.pc + 1 } }

end Execute

section ExecuteMmu

variable [Recepcion] (segmentMaxSize : UInt32) (sticks : List CpuStick) (contexto : Contexto)
  (tabla : List MemoryStick) (instr : Instruccion)

def ejecutarMovIn : Option Efecto :=
  match instr.parametros with
  | [] => some (sinMemoria tabla .error contexto.registros false)
  | reg :: _ =>
    (mmuLeerRed segmentMaxSize tabla sticks contexto contexto.registros.si (sizeofRegistro reg)).map
      fun
      | .error resultado => sinMemoria tabla resultado contexto.registros false
      | .ok dato =>
        let valor := UInt32.ofNat (ofLittleEndian dato)
        sinMemoria tabla .continuar (asignarValorRegistro contexto.registros reg valor) false

def ejecutarMovOut : Option Efecto :=
  match instr.parametros with
  | [] => some (sinMemoria tabla .error contexto.registros false)
  | reg :: _ =>
    let tamanio := sizeofRegistro reg
    let valor := obtenerValorRegistro contexto.registros reg
    (mmuEscribirRed segmentMaxSize tabla sticks contexto contexto.registros.di
      (littleEndian tamanio.toNat valor.toNat) tamanio).map
      fun (resultado, tabla) ↦ sinMemoria tabla resultado contexto.registros false

def ejecutarCopyMem : Option Efecto :=
  match instr.parametros with
  | [] => some (sinMemoria tabla .error contexto.registros false)
  | reg :: _ =>
    let tamanio := obtenerValorRegistro contexto.registros reg
    match mmuLeerRed segmentMaxSize tabla sticks contexto contexto.registros.si tamanio with
    | none => none
    | some (.error resultado) => some (sinMemoria tabla resultado contexto.registros false)
    | some (.ok dato) =>
      (mmuEscribirRed segmentMaxSize tabla sticks contexto contexto.registros.di dato tamanio).map
        fun (resultado, tabla) ↦ sinMemoria tabla resultado contexto.registros false

def ejecutarInstruccionMmu : Option Efecto :=
  if instr.nombre = "MOV_IN" then ejecutarMovIn segmentMaxSize sticks contexto tabla instr
  else if instr.nombre = "MOV_OUT" then ejecutarMovOut segmentMaxSize sticks contexto tabla instr
  else if instr.nombre = "COPY_MEM" then ejecutarCopyMem segmentMaxSize sticks contexto tabla instr
  else some (sinMemoria tabla .error contexto.registros false)

/-- `execute_instruccion`. An unknown instruction returns before the program counter moves. -/
def executeInstruccion : Option Efecto :=
  if instr.nombre = "NOOP" then
    some (sinMemoria tabla .continuar contexto.registros false).avanzarPc
  else if instr.nombre = "SET" then some (ejecutarSet contexto tabla instr).avanzarPc
  else if instr.nombre = "SUM" then some (ejecutarSum contexto tabla instr).avanzarPc
  else if instr.nombre = "SUB" then some (ejecutarSub contexto tabla instr).avanzarPc
  else if instr.nombre = "JNZ" then some (ejecutarJnz contexto tabla instr).avanzarPc
  else if esInstruccionCpuMemoria instr.nombre then
    (ejecutarInstruccionMmu segmentMaxSize sticks contexto tabla instr).map Efecto.avanzarPc
  else if instr.nombre = "EXIT" then
    some (sinMemoria tabla .exitProceso contexto.registros false).avanzarPc
  else if esSyscall instr.nombre then
    some (sinMemoria tabla .syscall contexto.registros false).avanzarPc
  else some (sinMemoria tabla .error contexto.registros false)

end ExecuteMmu

/-! ## The accesses of an instruction -/

/-- The logical addresses and sizes that an instruction asks the MMU for. -/
def Instruccion.accesos (instr : Instruccion) (registros : Registros) : List (UInt32 × UInt32) :=
  match instr.parametros with
  | [] => []
  | reg :: _ =>
    if instr.nombre = "MOV_IN" then [(registros.si, sizeofRegistro reg)]
    else if instr.nombre = "MOV_OUT" then [(registros.di, sizeofRegistro reg)]
    else if instr.nombre = "COPY_MEM" then
      let tamanio := obtenerValorRegistro registros reg
      [(registros.si, tamanio), (registros.di, tamanio)]
    else []

/-- No access of the instruction wraps into its segment. -/
def AccesosSinDesborde (segmentMaxSize : UInt32) (contexto : Contexto) (instr : Instruccion) : Prop :=
  ∀ acceso ∈ instr.accesos contexto.registros,
    SinDesbordeCpu segmentMaxSize contexto.tablaSegmentos acceso.1 acceso.2

instance (segmentMaxSize : UInt32) (segmentos : List Segmento) (dirLogica tam : UInt32) :
    Decidable (SinDesbordeCpu segmentMaxSize segmentos dirLogica tam) :=
  inferInstanceAs (Decidable (∀ _ ∈ _, _))

instance (segmentMaxSize : UInt32) (contexto : Contexto) (instr : Instruccion) :
    Decidable (AccesosSinDesborde segmentMaxSize contexto instr) :=
  inferInstanceAs (Decidable (∀ _ ∈ _, _))

/-! ## Two CPUs over memories that agree -/

/-- Two effects on the tables `tabla` and `otra` that cannot be told apart in the segments. -/
structure Efecto.Acompana (segmentos : List Segmento) (tabla otra : List MemoryStick)
    (efecto efecto' : Efecto) : Prop where
  resultado : efecto.resultado = efecto'.resultado
  registros : efecto.registros = efecto'.registros
  pcModificado : efecto.pcModificado = efecto'.pcModificado
  mismaTabla : MismaTabla efecto.tabla tabla
  mismaOtra : MismaTabla efecto'.tabla otra
  bytes : ByteMemory.AgreeOn (EnSegmentos segmentos) (plano efecto.tabla) (plano efecto'.tabla)

theorem Efecto.Acompana.avanzarPc {segmentos : List Segmento} {tabla otra : List MemoryStick}
    {efecto efecto' : Efecto} (h : efecto.Acompana segmentos tabla otra efecto') :
    efecto.avanzarPc.Acompana segmentos tabla otra efecto'.avanzarPc := by
  unfold Efecto.avanzarPc
  rw [← h.pcModificado, ← h.registros]
  split
  · exact h
  · exact ⟨h.resultado, rfl, rfl, h.mismaTabla, h.mismaOtra, h.bytes⟩

theorem Efecto.Acompana.rel_avanzarPc {segmentos : List Segmento} {tabla otra : List MemoryStick}
    {efecto efecto' : Option Efecto}
    (h : Option.Rel (Efecto.Acompana segmentos tabla otra) efecto efecto') :
    Option.Rel (Efecto.Acompana segmentos tabla otra) (efecto.map Efecto.avanzarPc)
      (efecto'.map Efecto.avanzarPc) := by
  cases h with
  | none => exact Option.Rel.none
  | some hefecto => exact Option.Rel.some hefecto.avanzarPc

theorem enSegmentos_lt {inicial : List MemoryStick} {segmentos : List Segmento}
    (hresidentes : Residentes inicial segmentos) {address : ℕ} (h : EnSegmentos segmentos address) :
    address < sumaSticks inicial := by
  obtain ⟨seg, hseg, -, hlt⟩ := h
  exact hlt.trans_le (hresidentes seg hseg).2

/-- What a read returns is as long as it was asked to be. -/
theorem length_mmuLeerRed [Recepcion] {inicial tabla : List MemoryStick} {sticks : List CpuStick}
    {contexto : Contexto} {segmentMaxSize dirLogica tam : UInt32} (hconoce : Conoce inicial sticks tabla)
    (hplana : TablaPlana tabla) (hresidentes : Residentes inicial contexto.tablaSegmentos)
    (hsin : SinDesbordeCpu segmentMaxSize contexto.tablaSegmentos dirLogica tam) {dato : List UInt8}
    (h : mmuLeerRed segmentMaxSize tabla sticks contexto dirLogica tam = some (.ok dato)) :
    dato.length = tam.toNat := by
  rw [hconoce.mmuLeerRed hplana hresidentes hsin] at h
  split at h
  · cases h
  · rw [finDeLectura_eq_ok h]
    exact ByteMemory.length_slice

/-! An instruction that only looks at the registers has the same effect over all sticks. -/

def SoloRegistros (f : List MemoryStick → Efecto) : Prop :=
  ∃ resultado registros pcModificado, ∀ tabla, f tabla = sinMemoria tabla resultado registros pcModificado

theorem soloRegistros_sinMemoria (resultado : ResultadoExecute) (registros : Registros)
    (pcModificado : Bool) : SoloRegistros fun tabla ↦ sinMemoria tabla resultado registros pcModificado :=
  ⟨resultado, registros, pcModificado, fun _ ↦ rfl⟩

theorem soloRegistros_set (contexto : Contexto) (instr : Instruccion) :
    SoloRegistros fun tabla ↦ ejecutarSet contexto tabla instr := by
  unfold ejecutarSet
  split
  · split <;> apply soloRegistros_sinMemoria
  · apply soloRegistros_sinMemoria

theorem soloRegistros_operacion (contexto : Contexto) (instr : Instruccion)
    (operacion : UInt32 → UInt32 → UInt32) :
    SoloRegistros fun tabla ↦ ejecutarOperacion contexto tabla instr operacion := by
  unfold ejecutarOperacion
  split <;> apply soloRegistros_sinMemoria

theorem soloRegistros_jnz (contexto : Contexto) (instr : Instruccion) :
    SoloRegistros fun tabla ↦ ejecutarJnz contexto tabla instr := by
  unfold ejecutarJnz
  split
  · split <;> apply soloRegistros_sinMemoria
  · apply soloRegistros_sinMemoria

section Acompana

variable {inicial tabla otra : List MemoryStick} {sticks sticks' : List CpuStick} {contexto : Contexto}
  {segmentMaxSize : UInt32} (hconoce : Conoce inicial sticks tabla) (hplana : TablaPlana tabla)
  (hconoce' : Conoce inicial sticks' otra) (hplana' : TablaPlana otra)
  (hresidentes : Residentes inicial contexto.tablaSegmentos)
  (hbytes : ByteMemory.AgreeOn (EnSegmentos contexto.tablaSegmentos) (plano tabla) (plano otra))
include hbytes

theorem acompana_sinMemoria (resultado : ResultadoExecute) (registros : Registros)
    (pcModificado : Bool) :
    (sinMemoria tabla resultado registros pcModificado).Acompana contexto.tablaSegmentos tabla otra
      (sinMemoria otra resultado registros pcModificado) :=
  ⟨rfl, rfl, rfl, MismaTabla.refl _, MismaTabla.refl _, hbytes⟩

theorem SoloRegistros.acompana {f : List MemoryStick → Efecto} (h : SoloRegistros f) :
    (f tabla).Acompana contexto.tablaSegmentos tabla otra (f otra) := by
  obtain ⟨resultado, registros, pcModificado, hf⟩ := h
  rw [hf, hf]
  exact acompana_sinMemoria hbytes ..

include hconoce hplana hconoce' hplana' hresidentes

theorem mmuLeerRed_iguales [Recepcion] {dirLogica tam : UInt32}
    (hsin : SinDesbordeCpu segmentMaxSize contexto.tablaSegmentos dirLogica tam) :
    mmuLeerRed segmentMaxSize tabla sticks contexto dirLogica tam =
      mmuLeerRed segmentMaxSize otra sticks' contexto dirLogica tam := by
  have hinicial : TablaPlana inicial := by
    obtain ⟨conocidos, nuevos, rfl, -, hextiende⟩ := hconoce
    exact hextiende.inicial_plana hplana.viejos
  rw [hconoce.mmuLeerRed hplana hresidentes hsin, hconoce'.mmuLeerRed hplana' hresidentes hsin]
  cases hdir : direccionPropia segmentMaxSize contexto.tablaSegmentos dirLogica tam with
  | none => rfl
  | some dir =>
    obtain ⟨-, hpropia⟩ := direccionPropia_enSegmentos hinicial.suma_lt hresidentes hdir
    simp only [hbytes.slice hpropia]

/-- A write leaves memories in agreement. -/
theorem mmuEscribirRed_acompana [Recepcion] {dirLogica tam : UInt32} {datos : List UInt8}
    (hsin : SinDesbordeCpu segmentMaxSize contexto.tablaSegmentos dirLogica tam)
    (hdatos : datos.length = tam.toNat) :
    Option.Rel (Efecto.Acompana contexto.tablaSegmentos tabla otra)
      ((mmuEscribirRed segmentMaxSize tabla sticks contexto dirLogica datos tam).map
        fun (resultado, tabla) ↦ sinMemoria tabla resultado contexto.registros false)
      ((mmuEscribirRed segmentMaxSize otra sticks' contexto dirLogica datos tam).map
        fun (resultado, tabla) ↦ sinMemoria tabla resultado contexto.registros false) := by
  have hescribe := hconoce.mmuEscribirRed hplana hresidentes hsin hdatos
  have hescribe' := hconoce'.mmuEscribirRed hplana' hresidentes hsin hdatos
  cases hdir : direccionPropia segmentMaxSize contexto.tablaSegmentos dirLogica tam with
  | none =>
    simp only [hdir] at hescribe hescribe'
    rw [hescribe, hescribe']
    exact Option.Rel.some (acompana_sinMemoria hbytes ..)
  | some dir =>
    simp only [hdir] at hescribe hescribe'
    by_cases hllega : EscrituraLlega inicial [] dir tam
    · obtain ⟨despues, heq, hmisma, hplano⟩ := hescribe.1 hllega
      obtain ⟨despues', heq', hmisma', hplano'⟩ := hescribe'.1 hllega
      rw [heq, heq']
      refine Option.Rel.some ⟨rfl, rfl, rfl, hmisma, hmisma', fun address haddress ↦ ?_⟩
      have hlt := enSegmentos_lt hresidentes haddress
      calc plano despues address
          = ByteMemory.overlay (plano tabla) dir.toNat datos address := hplano address hlt
        _ = ByteMemory.overlay (plano otra) dir.toNat datos address := hbytes.overlay address haddress
        _ = plano despues' address := (hplano' address hlt).symm
    · rw [hescribe.2 hllega, hescribe'.2 hllega]
      exact Option.Rel.none

theorem ejecutarInstruccionMmu_acompana [Recepcion] {instr : Instruccion}
    (hsin : AccesosSinDesborde segmentMaxSize contexto instr) :
    Option.Rel (Efecto.Acompana contexto.tablaSegmentos tabla otra)
      (ejecutarInstruccionMmu segmentMaxSize sticks contexto tabla instr)
      (ejecutarInstruccionMmu segmentMaxSize sticks' contexto otra instr) := by
  have hsinMemoria : ∀ resultado registros pcModificado,
      (sinMemoria tabla resultado registros pcModificado).Acompana contexto.tablaSegmentos tabla otra
        (sinMemoria otra resultado registros pcModificado) := acompana_sinMemoria hbytes
  unfold ejecutarInstruccionMmu ejecutarMovIn ejecutarMovOut ejecutarCopyMem
  unfold AccesosSinDesborde Instruccion.accesos at hsin
  cases hparametros : instr.parametros with
  | nil =>
    simp only
    split
    · exact Option.Rel.some (hsinMemoria ..)
    · split
      · exact Option.Rel.some (hsinMemoria ..)
      · split <;> exact Option.Rel.some (hsinMemoria ..)
  | cons reg resto =>
    simp only [hparametros] at hsin ⊢
    split at hsin
    · rename_i hnombre
      have hleer := hsin _ List.mem_cons_self
      rw [if_pos hnombre, if_pos hnombre,
        mmuLeerRed_iguales hconoce hplana hconoce' hplana' hresidentes hbytes hleer]
      cases mmuLeerRed segmentMaxSize otra sticks' contexto contexto.registros.si
        (sizeofRegistro reg) with
      | none => exact Option.Rel.none
      | some leido =>
        cases leido with
        | error resultado => exact Option.Rel.some (hsinMemoria ..)
        | ok dato => exact Option.Rel.some (hsinMemoria ..)
    · rename_i hno
      rw [if_neg hno, if_neg hno]
      split at hsin
      · rename_i hnombre
        rw [if_pos hnombre, if_pos hnombre]
        exact mmuEscribirRed_acompana hconoce hplana hconoce' hplana' hresidentes hbytes
          (hsin _ List.mem_cons_self) (StreamReader.length_littleEndian _ _)
      · rename_i hno'
        rw [if_neg hno', if_neg hno']
        split at hsin
        · rename_i hnombre
          have hleer := hsin _ List.mem_cons_self
          have hescribir := hsin _ (List.mem_cons_of_mem _ List.mem_cons_self)
          rw [if_pos hnombre, if_pos hnombre,
            mmuLeerRed_iguales hconoce hplana hconoce' hplana' hresidentes hbytes hleer]
          cases hlee : mmuLeerRed segmentMaxSize otra sticks' contexto contexto.registros.si
            (obtenerValorRegistro contexto.registros reg) with
          | none => exact Option.Rel.none
          | some leido =>
            cases leido with
            | error resultado => exact Option.Rel.some (hsinMemoria ..)
            | ok dato =>
              have hlargo := length_mmuLeerRed hconoce' hplana' hresidentes hleer hlee
              exact mmuEscribirRed_acompana hconoce hplana hconoce' hplana' hresidentes hbytes hescribir
                hlargo
        · rename_i hno''
          rw [if_neg hno'', if_neg hno'']
          exact Option.Rel.some (hsinMemoria ..)

/-- An instruction does the same on both CPUs. -/
theorem executeInstruccion_acompana [Recepcion] {instr : Instruccion}
    (hsin : AccesosSinDesborde segmentMaxSize contexto instr) :
    Option.Rel (Efecto.Acompana contexto.tablaSegmentos tabla otra)
      (executeInstruccion segmentMaxSize sticks contexto tabla instr)
      (executeInstruccion segmentMaxSize sticks' contexto otra instr) := by
  have hregistros : ∀ f : List MemoryStick → Efecto, SoloRegistros f →
      Option.Rel (Efecto.Acompana contexto.tablaSegmentos tabla otra) (some (f tabla).avanzarPc)
        (some (f otra).avanzarPc) :=
    fun f hf ↦ Option.Rel.some (hf.acompana hbytes).avanzarPc
  unfold executeInstruccion
  split
  · exact hregistros _ (soloRegistros_sinMemoria ..)
  split
  · exact hregistros _ (soloRegistros_set contexto instr)
  split
  · exact hregistros _ (soloRegistros_operacion contexto instr (· + ·))
  split
  · exact hregistros _ (soloRegistros_operacion contexto instr (· - ·))
  split
  · exact hregistros _ (soloRegistros_jnz contexto instr)
  split
  · have hmmu := ejecutarInstruccionMmu_acompana hconoce hplana hconoce' hplana' hresidentes hbytes hsin
    exact Efecto.Acompana.rel_avanzarPc hmmu
  split
  · exact hregistros _ (soloRegistros_sinMemoria ..)
  split
  · exact hregistros _ (soloRegistros_sinMemoria ..)
  · exact Option.Rel.some (acompana_sinMemoria hbytes ..)

end Acompana

end PlugAndPlay.Cpu
