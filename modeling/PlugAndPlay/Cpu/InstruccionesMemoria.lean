import PlugAndPlay.Cpu.Desalojo

/-!
# The memory instructions

`MOV_IN`, `MOV_OUT` and `COPY_MEM` against what they are for: a load, a store and a `memmove` of the bytes of a
request that stays inside its segment, and a segmentation fault that changes nothing for every other request.
The CPU does this exactly where it reaches no range by wrapping and every piece arrives.
-/

open PlugAndPlay.Library

namespace PlugAndPlay.Cpu

open Memoria
open Red (Llega Recepcion largoPedidoEscritura)
open Desalojo (contextoCarga efectoCarga carga_antes arranque_carga)
open StreamReader (littleEndian ofLittleEndian)

/-! ## The registers of the machine -/

/-- The general registers; `PC` is not among them. -/
inductive Registro where
  | ax | bx | cx | dx | eax | ebx | ecx | edx | si | di
deriving Repr, DecidableEq

namespace Registro

def nombre : Registro → String
  | ax => "AX"
  | bx => "BX"
  | cx => "CX"
  | dx => "DX"
  | eax => "EAX"
  | ebx => "EBX"
  | ecx => "ECX"
  | edx => "EDX"
  | si => "SI"
  | di => "DI"

/-- How many bytes the register has. -/
def ancho : Registro → UInt32
  | ax | bx | cx | dx => 1
  | eax | ebx | ecx | edx | si | di => 4

/-- What the register holds. -/
def valor (registros : Registros) : Registro → UInt32
  | ax => registros.ax.toUInt32
  | bx => registros.bx.toUInt32
  | cx => registros.cx.toUInt32
  | dx => registros.dx.toUInt32
  | eax => registros.eax
  | ebx => registros.ebx
  | ecx => registros.ecx
  | edx => registros.edx
  | si => registros.si
  | di => registros.di

theorem ancho_le (r : Registro) : r.ancho.toNat ≤ 4 := by
  cases r <;> decide

@[simp] theorem sizeofRegistro_nombre (r : Registro) : sizeofRegistro r.nombre = r.ancho := by
  cases r <;> rfl

@[simp] theorem obtenerValorRegistro_nombre (registros : Registros) (r : Registro) :
    obtenerValorRegistro registros r.nombre = r.valor registros := by
  cases r <;> rfl

/-- A register holds the value assigned to it, if it has room. -/
theorem valor_asignarValorRegistro (registros : Registros) (r : Registro) {valor : UInt32}
    (h : valor.toNat < 256 ^ r.ancho.toNat) :
    r.valor (asignarValorRegistro registros r.nombre valor) = valor := by
  have hbyte : valor.toNat < 256 → valor.toUInt8.toUInt32 = valor := by
    intro hlt
    apply UInt32.toNat_inj.mp
    simp only [UInt8.toNat_toUInt32, UInt32.toNat_toUInt8]
    exact Nat.mod_eq_of_lt hlt
  cases r with
  | ax | bx | cx | dx => exact hbyte h
  | eax | ebx | ecx | edx | si | di => rfl

/-- An assignment leaves the other registers alone. -/
theorem valor_asignarValorRegistro_otro (registros : Registros) {r otro : Registro} (hotro : otro ≠ r)
    (valor : UInt32) : otro.valor (asignarValorRegistro registros r.nombre valor) = otro.valor registros := by
  cases r <;> cases otro <;> first | rfl | exact absurd rfl hotro

theorem pc_asignarValorRegistro (registros : Registros) (r : Registro) (valor : UInt32) :
    (asignarValorRegistro registros r.nombre valor).pc = registros.pc := by
  cases r <;> rfl

end Registro

/-! ## What the instructions are for -/

/-- The instructions that go through the MMU. -/
inductive InstruccionMemoria where
  | movIn | movOut | copyMem
deriving Repr, DecidableEq

def InstruccionMemoria.nombre : InstruccionMemoria → String
  | movIn => "MOV_IN"
  | movOut => "MOV_OUT"
  | copyMem => "COPY_MEM"

section Efectos

variable [Recepcion] (segmentMaxSize : UInt32) (contexto : Contexto) (tabla : List MemoryStick)

/-- A segmentation fault moves the program counter and nothing else. -/
structure Efecto.Falla (efecto : Efecto) : Prop where
  resultado : efecto.resultado = .segFault
  registros : efecto.registros = { contexto.registros with pc := contexto.registros.pc + 1 }
  tabla : efecto.tabla = tabla

/-- The bytes go to the register, little end first; the other registers and the memory stay. -/
structure Efecto.Carga (r : Registro) (bytes : List UInt8) (efecto : Efecto) : Prop where
  resultado : efecto.resultado = .continuar
  valor : (r.valor efecto.registros).toNat = ofLittleEndian bytes
  otros : ∀ otro, otro ≠ r → otro.valor efecto.registros = otro.valor contexto.registros
  pc : efecto.registros.pc = contexto.registros.pc + 1
  tabla : efecto.tabla = tabla

/-- The bytes go to the memory from `destino` on; the rest of the memory and the registers stay. -/
structure Efecto.Guarda (destino : UInt32) (bytes : List UInt8) (efecto : Efecto) : Prop where
  resultado : efecto.resultado = .continuar
  registros : efecto.registros = { contexto.registros with pc := contexto.registros.pc + 1 }
  mismaTabla : MismaTabla efecto.tabla tabla
  plano : plano efecto.tabla = ByteMemory.overlay (plano tabla) destino.toNat bytes

/-- What the instruction is for: a load, a store, or a move of as many bytes as the register says. It faults
where a range names no segment or leaves its segment. -/
def InstruccionMemoria.Hace (i : InstruccionMemoria) (r : Registro) (efecto : Efecto) : Prop :=
  let propia := direccionPropia segmentMaxSize contexto.tablaSegmentos
  match i with
  | movIn =>
    match propia contexto.registros.si r.ancho with
    | none => efecto.Falla contexto tabla
    | some origen =>
      efecto.Carga contexto tabla r (ByteMemory.slice (plano tabla) origen.toNat r.ancho.toNat)
  | movOut =>
    match propia contexto.registros.di r.ancho with
    | none => efecto.Falla contexto tabla
    | some destino =>
      efecto.Guarda contexto tabla destino
        (littleEndian r.ancho.toNat (r.valor contexto.registros).toNat)
  | copyMem =>
    let tamanio := r.valor contexto.registros
    match propia contexto.registros.si tamanio, propia contexto.registros.di tamanio with
    | some origen, some destino =>
      efecto.Guarda contexto tabla destino (ByteMemory.slice (plano tabla) origen.toNat tamanio.toNat)
    | _, _ => efecto.Falla contexto tabla

/-- The instruction as the code executes it, with further parameters that it ignores. -/
def InstruccionMemoria.Exacta (sticks : List CpuStick) (i : InstruccionMemoria) (r : Registro)
    (resto : List String) : Prop :=
  ∃ efecto, executeInstruccion segmentMaxSize sticks contexto tabla ⟨i.nombre, r.nombre :: resto⟩ =
    some efecto ∧ i.Hace segmentMaxSize contexto tabla r efecto

/-- The CPU reaches only ranges inside their segments, and the pieces of a move arrive. A move whose source is
refused never looks at the destination. -/
def InstruccionMemoria.SinDefecto (i : InstruccionMemoria) (r : Registro) : Prop :=
  let propia := direccionPropia segmentMaxSize contexto.tablaSegmentos
  let alcanzada := direccionAlcanzada segmentMaxSize contexto.tablaSegmentos
  match i with
  | movIn =>
    ∀ origen ∈ alcanzada contexto.registros.si r.ancho,
      propia contexto.registros.si r.ancho = some origen
  | movOut =>
    ∀ destino ∈ alcanzada contexto.registros.di r.ancho,
      propia contexto.registros.di r.ancho = some destino
  | copyMem =>
    let tamanio := r.valor contexto.registros
    ∀ origen ∈ alcanzada contexto.registros.si tamanio,
      LecturaLlega tabla [] origen tamanio ∧
        ∀ destino ∈ alcanzada contexto.registros.di tamanio,
          propia contexto.registros.si tamanio = some origen ∧
            propia contexto.registros.di tamanio = some destino ∧ EscrituraLlega tabla [] destino tamanio

instance (i : InstruccionMemoria) (r : Registro) : Decidable (i.SinDefecto segmentMaxSize contexto tabla r) :=
  -- over the one address, not over all of 32 bits
  match i with
  | .movIn | .movOut => Option.decidableForallMem (direccionAlcanzada _ _ _ _)
  | .copyMem =>
    @Option.decidableForallMem _ _ (fun _ ↦
      @instDecidableAnd _ _ _ (Option.decidableForallMem (direccionAlcanzada _ _ _ _))) (direccionAlcanzada _ _ _ _)

end Efectos

/-! ## Where the CPU goes -/

/-- A request is refused, or reaches its own range, or is let through by wrapping. -/
theorem direccionAlcanzada_cases (segmentMaxSize : UInt32) (segmentos : List Segmento) (dirLogica tam : UInt32) :
    (direccionPropia segmentMaxSize segmentos dirLogica tam = none ∧
      direccionAlcanzada segmentMaxSize segmentos dirLogica tam = none) ∨
    (∃ dir, direccionPropia segmentMaxSize segmentos dirLogica tam = some dir ∧
      direccionAlcanzada segmentMaxSize segmentos dirLogica tam = some dir) ∨
    ∃ dir, direccionPropia segmentMaxSize segmentos dirLogica tam = none ∧
      direccionAlcanzada segmentMaxSize segmentos dirLogica tam = some dir := by
  cases hpropia : direccionPropia segmentMaxSize segmentos dirLogica tam with
  | some dir => exact Or.inr (Or.inl ⟨dir, rfl, direccionAlcanzada_of_propia hpropia⟩)
  | none =>
    cases halcanzada : direccionAlcanzada segmentMaxSize segmentos dirLogica tam with
    | none => exact Or.inl ⟨rfl, rfl⟩
    | some dir => exact Or.inr (Or.inr ⟨dir, rfl, rfl⟩)

theorem direccionPropia_of_noAlcanzada {segmentMaxSize : UInt32} {segmentos : List Segmento} {dirLogica tam : UInt32}
    (h : direccionAlcanzada segmentMaxSize segmentos dirLogica tam = none) :
    direccionPropia segmentMaxSize segmentos dirLogica tam = none := by
  obtain ⟨hpropia, -⟩ | ⟨dir, -, halcanzada⟩ | ⟨dir, hpropia, -⟩ :=
    direccionAlcanzada_cases segmentMaxSize segmentos dirLogica tam
  · exact hpropia
  · exact nomatch h.symm.trans halcanzada
  · exact hpropia

theorem direccionPropia_of_alcanzada {segmentMaxSize : UInt32} {segmentos : List Segmento} {dirLogica tam dir : UInt32}
    (h : direccionAlcanzada segmentMaxSize segmentos dirLogica tam = some dir) :
    direccionPropia segmentMaxSize segmentos dirLogica tam = some dir ∨
      direccionPropia segmentMaxSize segmentos dirLogica tam = none := by
  cases hpropia : direccionPropia segmentMaxSize segmentos dirLogica tam with
  | none => exact .inr rfl
  | some otra =>
    obtain rfl := Option.some.inj (h.symm.trans (direccionAlcanzada_of_propia hpropia))
    exact .inl rfl

/-- The pieces of a register always arrive. -/
theorem llega_registro [Recepcion] (tabla : List MemoryStick) (dir : UInt32) (r : Registro) :
    LecturaLlega tabla [] dir r.ancho ∧ EscrituraLlega tabla [] dir r.ancho := by
  have hancho := r.ancho_le
  have hminima : 2048 ≤ Recepcion.capacidad := Recepcion.minima
  constructor
  · apply lecturaLlega_of_corta
    omega
  · apply escrituraLlega_of_corta
    unfold largoPedidoEscritura
    omega

/-! ## Execution -/

section Ejecucion

variable {segmentMaxSize : UInt32} {sticks : List CpuStick} {contexto : Contexto} {tabla : List MemoryStick}
  {r : Registro} {resto : List String}

theorem executeInstruccion_memoria [Recepcion] (i : InstruccionMemoria) (parametros : List String) :
    executeInstruccion segmentMaxSize sticks contexto tabla ⟨i.nombre, parametros⟩ =
      (ejecutarInstruccionMmu segmentMaxSize sticks contexto tabla ⟨i.nombre, parametros⟩).map
        Efecto.avanzarPc := by
  cases i <;> rfl

/-- An instruction that the MMU refused. -/
theorem falla_segFault :
    (sinMemoria tabla .segFault contexto.registros false).avanzarPc.Falla contexto tabla :=
  ⟨rfl, rfl, rfl⟩

/-- A load of the bytes of the register. -/
theorem carga_continuar {bytes : List UInt8} (hbytes : bytes.length = r.ancho.toNat) :
    (sinMemoria tabla .continuar (asignarValorRegistro contexto.registros r.nombre
      (UInt32.ofNat (ofLittleEndian bytes))) false).avanzarPc.Carga contexto tabla r bytes := by
  have hlt : ofLittleEndian bytes < 256 ^ r.ancho.toNat := by
    rw [← hbytes]
    exact StreamReader.ofLittleEndian_lt bytes
  have hpalabra : 256 ^ r.ancho.toNat ≤ 2 ^ 32 :=
    Nat.pow_le_pow_right (Nat.succ_pos 255) r.ancho_le
  have hvalor : (UInt32.ofNat (ofLittleEndian bytes)).toNat = ofLittleEndian bytes :=
    UInt32.toNat_ofNat_of_lt' (hlt.trans_le hpalabra)
  have hcabe : (UInt32.ofNat (ofLittleEndian bytes)).toNat < 256 ^ r.ancho.toNat := by
    rw [hvalor]
    exact hlt
  have hpc : ∀ (registros : Registros) (pc : UInt32) (otro : Registro),
      otro.valor { registros with pc := pc } = otro.valor registros := by
    intro registros pc otro
    cases otro <;> rfl
  refine ⟨rfl, ?_, ?_, ?_, rfl⟩
  · calc (r.valor _).toNat
        = (r.valor (asignarValorRegistro contexto.registros r.nombre
            (UInt32.ofNat (ofLittleEndian bytes)))).toNat := congrArg UInt32.toNat (hpc _ _ r)
      _ = (UInt32.ofNat (ofLittleEndian bytes)).toNat := by
        rw [Registro.valor_asignarValorRegistro _ r hcabe]
      _ = ofLittleEndian bytes := hvalor
  · intro otro hotro
    exact (hpc _ _ otro).trans (Registro.valor_asignarValorRegistro_otro contexto.registros hotro _)
  · show (asignarValorRegistro contexto.registros r.nombre _).pc + 1 = contexto.registros.pc + 1
    rw [Registro.pc_asignarValorRegistro]

/-- A write of these bytes. -/
theorem guarda_continuar {destino : UInt32} {bytes : List UInt8} {despues : List MemoryStick}
    (hmisma : MismaTabla despues tabla)
    (hplano : plano despues = ByteMemory.overlay (plano tabla) destino.toNat bytes) :
    (sinMemoria despues .continuar contexto.registros false).avanzarPc.Guarda contexto tabla destino bytes :=
  ⟨rfl, rfl, hmisma, hplano⟩

/-- A move that was carried out is what it is for if neither range wrapped. -/
theorem hace_copyMem_iff {origen destino : UInt32} {despues : List MemoryStick}
    (horigen : direccionAlcanzada segmentMaxSize contexto.tablaSegmentos contexto.registros.si
      (r.valor contexto.registros) = some origen)
    (hdestino : direccionAlcanzada segmentMaxSize contexto.tablaSegmentos contexto.registros.di
      (r.valor contexto.registros) = some destino)
    (hmisma : MismaTabla despues tabla)
    (hplano : plano despues = ByteMemory.overlay (plano tabla) destino.toNat
      (ByteMemory.slice (plano tabla) origen.toNat (r.valor contexto.registros).toNat)) :
    InstruccionMemoria.copyMem.Hace segmentMaxSize contexto tabla r
        (sinMemoria despues .continuar contexto.registros false).avanzarPc ↔
      direccionPropia segmentMaxSize contexto.tablaSegmentos contexto.registros.si
          (r.valor contexto.registros) = some origen ∧
        direccionPropia segmentMaxSize contexto.tablaSegmentos contexto.registros.di
          (r.valor contexto.registros) = some destino := by
  simp only [InstruccionMemoria.Hace]
  rcases direccionPropia_of_alcanzada horigen with hpropia | hpropia
  · rcases direccionPropia_of_alcanzada hdestino with hpropia' | hpropia'
    · simp only [hpropia, hpropia']
      exact iff_of_true (guarda_continuar hmisma hplano) ⟨trivial, trivial⟩
    · simp only [hpropia, hpropia']
      exact iff_of_false (fun hfalla ↦ nomatch hfalla.resultado) fun h ↦ nomatch h.2
  · simp only [hpropia]
    exact iff_of_false (fun hfalla ↦ nomatch hfalla.resultado) fun h ↦ nomatch h.1

/-- A move whose destination is refused is what it is for, also where its source wrapped: the read changed nothing. -/
theorem hace_copyMem_segFault
    (hdestino : direccionAlcanzada segmentMaxSize contexto.tablaSegmentos contexto.registros.di
      (r.valor contexto.registros) = none) :
    InstruccionMemoria.copyMem.Hace segmentMaxSize contexto tabla r
      (sinMemoria tabla .segFault contexto.registros false).avanzarPc := by
  simp only [InstruccionMemoria.Hace, direccionPropia_of_noAlcanzada hdestino]
  cases direccionPropia segmentMaxSize contexto.tablaSegmentos contexto.registros.si
    (r.valor contexto.registros) <;> exact falla_segFault

variable [Recepcion]

/-- An instruction with a known effect is exact when the effect is what it is for. -/
theorem exacta_iff {i : InstruccionMemoria} {efecto : Efecto}
    (h : executeInstruccion segmentMaxSize sticks contexto tabla ⟨i.nombre, r.nombre :: resto⟩ = some efecto) :
    i.Exacta segmentMaxSize contexto tabla sticks r resto ↔ i.Hace segmentMaxSize contexto tabla r efecto := by
  constructor
  · rintro ⟨otro, hotro, hhace⟩
    obtain rfl := Option.some.inj (h.symm.trans hotro)
    exact hhace
  · exact fun hhace ↦ ⟨efecto, h, hhace⟩

variable (hplana : TablaPlana tabla) (hsticks : MismosSticks sticks tabla)
  (hresidentes : Residentes tabla contexto.tablaSegmentos)
include hplana hsticks hresidentes

theorem executeInstruccion_movIn :
    executeInstruccion segmentMaxSize sticks contexto tabla ⟨InstruccionMemoria.movIn.nombre, r.nombre :: resto⟩ =
      some (match direccionAlcanzada segmentMaxSize contexto.tablaSegmentos contexto.registros.si r.ancho with
        | none => (sinMemoria tabla .segFault contexto.registros false).avanzarPc
        | some origen => (sinMemoria tabla .continuar (asignarValorRegistro contexto.registros r.nombre
            (UInt32.ofNat (ofLittleEndian
              (ByteMemory.slice (plano tabla) origen.toNat r.ancho.toNat)))) false).avanzarPc) := by
  have hleer := @mmuLeerRed_alcanzada _ tabla sticks contexto segmentMaxSize contexto.registros.si r.ancho hplana
    hsticks hresidentes
  have hmmu : ejecutarInstruccionMmu segmentMaxSize sticks contexto tabla
        ⟨InstruccionMemoria.movIn.nombre, r.nombre :: resto⟩ =
      ejecutarMovIn segmentMaxSize sticks contexto tabla ⟨InstruccionMemoria.movIn.nombre, r.nombre :: resto⟩ := rfl
  rw [executeInstruccion_memoria, hmmu]
  simp only [ejecutarMovIn, Registro.sizeofRegistro_nombre, hleer]
  cases direccionAlcanzada segmentMaxSize contexto.tablaSegmentos contexto.registros.si r.ancho with
  | none => rfl
  | some origen =>
    simp only [finDeLectura_of_llega _ (lecturaLlega_iff.mp (llega_registro tabla origen r).1), Option.map_some]

theorem executeInstruccion_movOut :
    match direccionAlcanzada segmentMaxSize contexto.tablaSegmentos contexto.registros.di r.ancho with
    | none =>
      executeInstruccion segmentMaxSize sticks contexto tabla
          ⟨InstruccionMemoria.movOut.nombre, r.nombre :: resto⟩ =
        some (sinMemoria tabla .segFault contexto.registros false).avanzarPc
    | some destino => ∃ despues,
      executeInstruccion segmentMaxSize sticks contexto tabla
          ⟨InstruccionMemoria.movOut.nombre, r.nombre :: resto⟩ =
        some (sinMemoria despues .continuar contexto.registros false).avanzarPc ∧ MismaTabla despues tabla ∧
      plano despues = ByteMemory.overlay (plano tabla) destino.toNat
        (littleEndian r.ancho.toNat (r.valor contexto.registros).toNat) := by
  have hlargo : (littleEndian r.ancho.toNat (r.valor contexto.registros).toNat).length = r.ancho.toNat :=
    StreamReader.length_littleEndian _ _
  have hescribe := @mmuEscribirRed_alcanzada _ tabla sticks contexto segmentMaxSize contexto.registros.di r.ancho
    hplana hsticks hresidentes _ hlargo.ge
  have hmmu : ejecutarInstruccionMmu segmentMaxSize sticks contexto tabla
        ⟨InstruccionMemoria.movOut.nombre, r.nombre :: resto⟩ =
      ejecutarMovOut segmentMaxSize sticks contexto tabla ⟨InstruccionMemoria.movOut.nombre, r.nombre :: resto⟩ :=
    rfl
  rw [executeInstruccion_memoria, hmmu]
  simp only [ejecutarMovOut, Registro.sizeofRegistro_nombre, Registro.obtenerValorRegistro_nombre]
  cases halcanzada : direccionAlcanzada segmentMaxSize contexto.tablaSegmentos contexto.registros.di r.ancho with
  | none =>
    simp only [halcanzada] at hescribe
    simp only [hescribe, Option.map_some]
  | some destino =>
    simp only [halcanzada] at hescribe
    obtain ⟨despues, heq, hmisma, hplano⟩ := hescribe.1 (llega_registro tabla destino r).2
    rw [List.take_of_length_le hlargo.le] at hplano
    simp only [heq, Option.map_some]
    exact ⟨despues, rfl, hmisma, hplano⟩

theorem executeInstruccion_copyMem :
    match direccionAlcanzada segmentMaxSize contexto.tablaSegmentos contexto.registros.si
        (r.valor contexto.registros) with
    | none =>
      executeInstruccion segmentMaxSize sticks contexto tabla
          ⟨InstruccionMemoria.copyMem.nombre, r.nombre :: resto⟩ =
        some (sinMemoria tabla .segFault contexto.registros false).avanzarPc
    | some origen =>
      (¬ LecturaLlega tabla [] origen (r.valor contexto.registros) →
        ∀ efecto, executeInstruccion segmentMaxSize sticks contexto tabla
            ⟨InstruccionMemoria.copyMem.nombre, r.nombre :: resto⟩ = some efecto →
          efecto = (sinMemoria tabla .error contexto.registros false).avanzarPc) ∧
      (LecturaLlega tabla [] origen (r.valor contexto.registros) →
        match direccionAlcanzada segmentMaxSize contexto.tablaSegmentos contexto.registros.di
            (r.valor contexto.registros) with
        | none =>
          executeInstruccion segmentMaxSize sticks contexto tabla
              ⟨InstruccionMemoria.copyMem.nombre, r.nombre :: resto⟩ =
            some (sinMemoria tabla .segFault contexto.registros false).avanzarPc
        | some destino =>
          (EscrituraLlega tabla [] destino (r.valor contexto.registros) → ∃ despues,
            executeInstruccion segmentMaxSize sticks contexto tabla
                ⟨InstruccionMemoria.copyMem.nombre, r.nombre :: resto⟩ =
              some (sinMemoria despues .continuar contexto.registros false).avanzarPc ∧
            MismaTabla despues tabla ∧
            plano despues = ByteMemory.overlay (plano tabla) destino.toNat
              (ByteMemory.slice (plano tabla) origen.toNat (r.valor contexto.registros).toNat)) ∧
          (¬ EscrituraLlega tabla [] destino (r.valor contexto.registros) →
            executeInstruccion segmentMaxSize sticks contexto tabla
                ⟨InstruccionMemoria.copyMem.nombre, r.nombre :: resto⟩ = none)) := by
  have hleer := @mmuLeerRed_alcanzada _ tabla sticks contexto segmentMaxSize contexto.registros.si
    (r.valor contexto.registros) hplana hsticks hresidentes
  have hmmu : ejecutarInstruccionMmu segmentMaxSize sticks contexto tabla
        ⟨InstruccionMemoria.copyMem.nombre, r.nombre :: resto⟩ =
      ejecutarCopyMem segmentMaxSize sticks contexto tabla
        ⟨InstruccionMemoria.copyMem.nombre, r.nombre :: resto⟩ := rfl
  rw [executeInstruccion_memoria, hmmu]
  simp only [ejecutarCopyMem, Registro.obtenerValorRegistro_nombre]
  cases horigen : direccionAlcanzada segmentMaxSize contexto.tablaSegmentos contexto.registros.si
      (r.valor contexto.registros) with
  | none =>
    simp only [horigen] at hleer
    simp only [hleer, Option.map_some]
  | some origen =>
    simp only [horigen] at hleer
    constructor
    · intro hno efecto hefecto
      obtain hnada | herror := finDeLectura_of_not
        (ByteMemory.slice (plano tabla) origen.toNat (r.valor contexto.registros).toNat)
        (lecturaLlega_iff.not.mp hno)
      · simp only [hleer, hnada, Option.map_none] at hefecto
        cases hefecto
      · simp only [hleer, herror, Option.map_some, Option.some.injEq] at hefecto
        exact hefecto.symm
    · intro hllega
      rw [finDeLectura_of_llega _ (lecturaLlega_iff.mp hllega)] at hleer
      simp only [hleer]
      have hlargo : (ByteMemory.slice (plano tabla) origen.toNat (r.valor contexto.registros).toNat).length =
          (r.valor contexto.registros).toNat := ByteMemory.length_slice
      have hescribe := @mmuEscribirRed_alcanzada _ tabla sticks contexto segmentMaxSize contexto.registros.di
        (r.valor contexto.registros) hplana hsticks hresidentes _ hlargo.ge
      cases hdestino : direccionAlcanzada segmentMaxSize contexto.tablaSegmentos contexto.registros.di
          (r.valor contexto.registros) with
      | none =>
        simp only [hdestino] at hescribe
        simp only [hescribe, Option.map_some]
      | some destino =>
        simp only [hdestino] at hescribe
        constructor
        · intro hescritura
          obtain ⟨despues, heq, hmisma, hplano⟩ := hescribe.1 hescritura
          rw [List.take_of_length_le hlargo.le] at hplano
          simp only [heq, Option.map_some]
          exact ⟨despues, rfl, hmisma, hplano⟩
        · intro hno
          simp only [hescribe.2 hno, Option.map_none]

theorem movIn_exacta_iff :
    InstruccionMemoria.movIn.Exacta segmentMaxSize contexto tabla sticks r resto ↔
      InstruccionMemoria.movIn.SinDefecto segmentMaxSize contexto tabla r := by
  have hejecuta := @executeInstruccion_movIn segmentMaxSize sticks contexto tabla r resto _ hplana hsticks hresidentes
  rw [exacta_iff hejecuta]
  simp only [InstruccionMemoria.Hace, InstruccionMemoria.SinDefecto]
  obtain ⟨hpropia, halcanzada⟩ | ⟨origen, hpropia, halcanzada⟩ | ⟨origen, hpropia, halcanzada⟩ :=
    direccionAlcanzada_cases segmentMaxSize contexto.tablaSegmentos contexto.registros.si r.ancho
  · simp only [hpropia, halcanzada]
    exact iff_of_true falla_segFault nofun
  · simp only [hpropia, halcanzada]
    exact iff_of_true (carga_continuar ByteMemory.length_slice) fun otro hotro ↦ hotro
  · simp only [hpropia, halcanzada]
    exact iff_of_false (fun hfalla ↦ nomatch hfalla.resultado) fun h ↦ nomatch h origen rfl

theorem movOut_exacta_iff :
    InstruccionMemoria.movOut.Exacta segmentMaxSize contexto tabla sticks r resto ↔
      InstruccionMemoria.movOut.SinDefecto segmentMaxSize contexto tabla r := by
  have hejecuta := @executeInstruccion_movOut segmentMaxSize sticks contexto tabla r resto _ hplana hsticks hresidentes
  obtain ⟨hpropia, halcanzada⟩ | ⟨destino, hpropia, halcanzada⟩ | ⟨destino, hpropia, halcanzada⟩ :=
    direccionAlcanzada_cases segmentMaxSize contexto.tablaSegmentos contexto.registros.di r.ancho
  · simp only [halcanzada] at hejecuta
    rw [exacta_iff hejecuta]
    simp only [InstruccionMemoria.Hace, InstruccionMemoria.SinDefecto, hpropia, halcanzada]
    exact iff_of_true falla_segFault nofun
  · simp only [halcanzada] at hejecuta
    obtain ⟨despues, heq, hmisma, hplano⟩ := hejecuta
    rw [exacta_iff heq]
    simp only [InstruccionMemoria.Hace, InstruccionMemoria.SinDefecto, hpropia, halcanzada]
    exact iff_of_true (guarda_continuar hmisma hplano) fun otro hotro ↦ hotro
  · simp only [halcanzada] at hejecuta
    obtain ⟨despues, heq, -, -⟩ := hejecuta
    rw [exacta_iff heq]
    simp only [InstruccionMemoria.Hace, InstruccionMemoria.SinDefecto, hpropia, halcanzada]
    exact iff_of_false (fun hfalla ↦ nomatch hfalla.resultado) fun h ↦ nomatch h destino rfl

theorem copyMem_exacta_iff :
    InstruccionMemoria.copyMem.Exacta segmentMaxSize contexto tabla sticks r resto ↔
      InstruccionMemoria.copyMem.SinDefecto segmentMaxSize contexto tabla r := by
  have hejecuta := @executeInstruccion_copyMem segmentMaxSize sticks contexto tabla r resto _ hplana hsticks
    hresidentes
  have hsinDefecto : InstruccionMemoria.copyMem.SinDefecto segmentMaxSize contexto tabla r ↔
      ∀ origen ∈ direccionAlcanzada segmentMaxSize contexto.tablaSegmentos contexto.registros.si
          (r.valor contexto.registros),
        LecturaLlega tabla [] origen (r.valor contexto.registros) ∧
          ∀ destino ∈ direccionAlcanzada segmentMaxSize contexto.tablaSegmentos contexto.registros.di
              (r.valor contexto.registros),
            direccionPropia segmentMaxSize contexto.tablaSegmentos contexto.registros.si
                (r.valor contexto.registros) = some origen ∧
              direccionPropia segmentMaxSize contexto.tablaSegmentos contexto.registros.di
                (r.valor contexto.registros) = some destino ∧
              EscrituraLlega tabla [] destino (r.valor contexto.registros) := Iff.rfl
  rw [hsinDefecto]
  cases hsi : direccionAlcanzada segmentMaxSize contexto.tablaSegmentos contexto.registros.si
      (r.valor contexto.registros) with
  | none =>
    -- the source is refused, whatever the destination is
    simp only [hsi] at hejecuta
    rw [exacta_iff hejecuta]
    simp only [InstruccionMemoria.Hace, direccionPropia_of_noAlcanzada hsi]
    exact iff_of_true falla_segFault nofun
  | some origen =>
    simp only [hsi] at hejecuta
    simp only [Option.mem_some_iff, forall_eq']
    by_cases hlectura : LecturaLlega tabla [] origen (r.valor contexto.registros)
    · have hescribe := hejecuta.2 hlectura
      cases hdi : direccionAlcanzada segmentMaxSize contexto.tablaSegmentos contexto.registros.di
          (r.valor contexto.registros) with
      | none =>
        simp only [hdi] at hescribe
        rw [exacta_iff hescribe]
        exact iff_of_true (hace_copyMem_segFault hdi) ⟨hlectura, nofun⟩
      | some destino =>
        simp only [hdi] at hescribe
        simp only [Option.mem_some_iff, forall_eq']
        by_cases hescritura : EscrituraLlega tabla [] destino (r.valor contexto.registros)
        · obtain ⟨despues, heq, hmisma, hplano⟩ := hescribe.1 hescritura
          rw [exacta_iff heq, hace_copyMem_iff hsi hdi hmisma hplano]
          simp only [hlectura, hescritura, and_true, true_and]
        · refine iff_of_false ?_ fun h ↦ hescritura h.2.2.2
          rintro ⟨efecto, hefecto, -⟩
          exact nomatch (hescribe.2 hescritura).symm.trans hefecto
    · refine iff_of_false ?_ fun h ↦ hlectura h.1
      rintro ⟨efecto, hefecto, hhace⟩
      obtain rfl := hejecuta.1 hlectura efecto hefecto
      simp only [InstruccionMemoria.Hace] at hhace
      split at hhace
      · exact nomatch hhace.resultado
      · exact nomatch hhace.resultado

/-- A memory instruction is exact, with every register and every further parameter, exactly when the CPU reaches
no range by wrapping and the pieces of a move arrive. -/
theorem instruccionMemoria_exacta_iff (i : InstruccionMemoria) (r : Registro) (resto : List String) :
    i.Exacta segmentMaxSize contexto tabla sticks r resto ↔ i.SinDefecto segmentMaxSize contexto tabla r := by
  cases i with
  | movIn => exact movIn_exacta_iff hplana hsticks hresidentes
  | movOut => exact movOut_exacta_iff hplana hsticks hresidentes
  | copyMem => exact copyMem_exacta_iff hplana hsticks hresidentes

end Ejecucion

section Muestra

local instance recepcionDeInstrucciones : Recepcion := Red.recepcionTipica

/-- A move over the boundary of two sticks, onto itself. -/
theorem copyMem_exacta_tres_sticks :
    InstruccionMemoria.copyMem.Exacta 1024
      ⟨1, { Registros.cero with eax := 4, si := 1, di := 3 }, procesoDeTresSticks.segmentos⟩
      ramTresSticks.tabla cpuTresSticks .eax [] :=
  (instruccionMemoria_exacta_iff (tablaPlana_of_plana plana_ramTresSticks) mismosSticks_cpuTresSticks
    (by decide) .copyMem .eax []).mpr (by decide +kernel)

/-- A load around the start of its segment ends well, with three bytes of others in the register. -/
theorem movIn_desborde :
    TablaPlana ramTresSticks.tabla ∧ MismosSticks cpuTresSticks ramTresSticks.tabla ∧
      Residentes ramTresSticks.tabla contextoCarga.tablaSegmentos ∧
      executeInstruccion 4294967295 cpuTresSticks contextoCarga ramTresSticks.tabla ⟨"MOV_IN", ["EAX"]⟩ =
        some (efectoCarga ramTresSticks.tabla 0x07070707) ∧
      ¬ InstruccionMemoria.movIn.Exacta 4294967295 contextoCarga ramTresSticks.tabla cpuTresSticks .eax [] := by
  refine ⟨arranque_carga.plana, mismosSticks_cpuTresSticks, arranque_carga.residentes, carga_antes,
    fun hexacta ↦ ?_⟩
  have hhace := (exacta_iff (i := .movIn) (r := .eax) carga_antes).mp hexacta
  have hpropia : direccionPropia 4294967295 contextoCarga.tablaSegmentos contextoCarga.registros.si
      Registro.eax.ancho = none := by decide
  simp only [InstruccionMemoria.Hace, hpropia] at hhace
  exact nomatch hhace.resultado

end Muestra

end PlugAndPlay.Cpu
