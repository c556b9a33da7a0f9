import PlugAndPlay.Cpu.Ciclo
import PlugAndPlay.Planificador.Tipos
import PlugAndPlay.Red.LectoresEstables

/-!
# Syscalls on their way to the scheduler

A CPU returns a process that made a syscall with the text of its instruction, in which numbers stand for the two
registers of `STDIN` and `STDOUT`. The scheduler makes `int`s of the text again, and `uint32_t`s of these for
Kernel Memory.
-/

open PlugAndPlay.Library.StreamReader PlugAndPlay.Memoria PlugAndPlay.Red
open PlugAndPlay.Cpu (Instruccion atoi obtenerValorRegistro)

namespace PlugAndPlay.Planificador

/-! ## The CPU -/

/-- `es_syscall_memoria`. -/
def esSyscallMemoria (nombre : String) : Bool := nombre = "STDIN" || nombre = "STDOUT"

theorem esSyscallMemoria_iff {nombre : String} :
    esSyscallMemoria nombre = true ↔ nombre = "STDIN" ∨ nombre = "STDOUT" := by
  simp [esSyscallMemoria]

/-- `snprintf` with `"%u"`. -/
def decimal (valor : UInt32) : String := valor.toNat.repr

/-- `resolver_parametros_syscall_io`. -/
def resolverParametrosSyscallIo (nombre : String) (params : List String) (registros : Memoria.Registros) :
    List String :=
  if nombre ≠ "STDOUT" ∧ nombre ≠ "STDIN" ∨ params.length < 2 then params
  else (params.take 2).map (fun param ↦ decimal (obtenerValorRegistro registros param)) ++ params.drop 2

/-- The C string of a text. -/
def cadenaDe (texto : String) : Cadena := cadenaEn texto.toUTF8.data.toList

/-- The parameters of a syscall as `manejar_resultado_execute` sends them. -/
def paramsDevueltos (instr : Instruccion) (registros : Memoria.Registros) : List String :=
  if esSyscallMemoria instr.nombre then resolverParametrosSyscallIo instr.nombre instr.parametros registros
  else instr.parametros

/-- What `manejar_resultado_execute` sends for a syscall. -/
def devolverSyscall (pid : Int32) (instr : Instruccion) (registros : Memoria.Registros) : Paquete :=
  enviarDevolverProceso pid motivoSyscall
    (some ⟨cadenaDe instr.nombre, (paramsDevueltos instr registros).map cadenaDe⟩)

/-! ## The scheduler -/

/-- The text of a C string. -/
def textoDe (cadena : Cadena) : String := (String.fromUTF8? cadena.bytes.toByteArray).getD ""

def dosEnteros : List String → Option (ℤ × ℤ)
  | primero :: segundo :: _ => some ((atoi primero).toInt, (atoi segundo).toInt)
  | _ => none

/-- The syscall that `manejar_syscall_io` makes of a name and its parameters. -/
def syscallDe (nombre : String) (params : List String) : Syscall :=
  if nombre = "SLEEP" then .sleep (params.head?.map fun tiempo ↦ (atoi tiempo).toInt)
  else if nombre = "IO_SLEEP" then
    match params with
    | io :: tiempo :: _ => .ioSleep (some (io, (atoi tiempo).toInt))
    | _ => .ioSleep none
  else if nombre = "STDIN" then .stdin (dosEnteros params)
  else if nombre = "STDOUT" then .stdout (dosEnteros params)
  else if nombre = "MEM_ALLOC" then
    match params with
    | id :: tamanio :: _ => .memAlloc (some ((atoi id).toUInt32, (atoi tamanio).toUInt32))
    | _ => .memAlloc none
  else if nombre = "MEM_FREE" then .memFree (params.head?.map fun id ↦ (atoi id).toUInt32)
  else if nombre = "MUTEX_CREATE" then .mutexCreate params.head?
  else if nombre = "MUTEX_LOCK" then .mutexLock params.head?
  else if nombre = "MUTEX_UNLOCK" then .mutexUnlock params.head?
  else if nombre = "INIT_PROC" then
    match params with
    | path :: prioridad :: _ => .initProc (some (path, (atoi prioridad).toInt))
    | _ => .initProc none
  else .desconocida

/-- The numbers of `t_motivo_devolucion`. -/
def motivoDe (motivo : Int32) : Motivo :=
  match motivo.toInt with
  | 0 => .quantum
  | 2 => .exit
  | 3 => .error
  | 4 => .segfault
  | 5 => .desalojo
  | 6 => .desalojoCola
  | _ => .desconocido

/-- A turn of `scheduler_cpu_receptor_thread` up to its handler; `none` is an operation that it does not know. -/
def leerDevuelto [Recepcion] : Lector (Option (Int32 × Motivo)) := do
  let codigo ← recibirCodigoOperacion
  match Red.OpCode.deValor codigo with
  | some .devolverProceso =>
    let (pid, motivo, syscall) ← recibirDevolverProceso
    match syscall with
    | none => pure (some (pid, motivoDe motivo))
    | some syscall => pure (some (pid, .syscall (syscallDe (textoDe syscall.nombre) (syscall.params.map textoDe))))
  | _ => pure none

/-! ## Numbers as text -/

/-- No byte of the text is zero. -/
def SinNul (texto : String) : Prop := 0 ∉ texto.toUTF8.data.toList

instance (texto : String) : Decidable (SinNul texto) := inferInstanceAs (Decidable (¬ _))

theorem textoDe_cadenaDe {texto : String} (h : SinNul texto) : textoDe (cadenaDe texto) = texto := by
  have hbytes : (cadenaDe texto).bytes = texto.toUTF8.data.toList := by
    apply List.takeWhile_eq_self_iff.mpr
    intro b hb
    have hne : b ≠ 0 := fun heq ↦ h (heq ▸ hb)
    simpa using hne
  have harreglo : (cadenaDe texto).bytes.toByteArray = texto.toByteArray := by
    rw [hbytes]
    apply ByteArray.ext
    apply Array.toList_inj.mp
    exact List.toList_data_toByteArray
  unfold textoDe
  rw [harreglo]
  unfold String.fromUTF8?
  rw [dif_pos texto.isValidUTF8]
  rfl

theorem entre_digitos {c : Char} (h : c.isDigit) : 48 ≤ c.val.toNat ∧ c.val.toNat ≤ 57 := by
  simpa [Char.isDigit, UInt32.le_iff_toNat_le] using h

/-- Digits have no zero byte. -/
theorem sinNul_digitos {digitos : List Char} (h : ∀ c ∈ digitos, c.isDigit) :
    0 ∉ digitos.utf8Encode.data.toList := by
  induction digitos with
  | nil =>
    rw [List.utf8Encode_nil]
    exact List.not_mem_nil
  | cons c digitos ih =>
    obtain ⟨hc, hdigitos⟩ := List.forall_mem_cons.mp h
    obtain ⟨hdesde, hhasta⟩ := entre_digitos hc
    have hbyte : String.utf8EncodeChar c = [UInt8.ofNat c.val.toNat] := by
      unfold String.utf8EncodeChar
      exact if_pos (Nat.le_trans hhasta (by decide))
    have hcero : 0 ≠ UInt8.ofNat c.val.toNat := by
      intro h
      have hvalor := congrArg UInt8.toNat h
      rw [UInt8.toNat_ofNat_of_lt' (Nat.lt_of_le_of_lt hhasta (by decide))] at hvalor
      have hnulo : (0 : UInt8).toNat = 0 := rfl
      omega
    rw [List.utf8Encode_cons, ByteArray.toList_data_append, List.utf8Encode_singleton,
      List.toList_data_toByteArray, hbyte, List.mem_append, not_or]
    exact ⟨fun h ↦ hcero (List.mem_singleton.mp h), ih hdigitos⟩

theorem isDigit_of_mem_decimal {valor : UInt32} {c : Char} (h : c ∈ (decimal valor).toList) : c.isDigit := by
  unfold decimal at h
  rw [Nat.toList_repr] at h
  exact Nat.isDigit_of_mem_toDigits (by decide) (by decide) h

theorem sinNul_decimal (valor : UInt32) : SinNul (decimal valor) := by
  unfold SinNul
  rw [String.toUTF8_eq_toByteArray, ← String.utf8Encode_toList]
  exact sinNul_digitos fun c hc ↦ isDigit_of_mem_decimal hc

theorem not_isspace {c : Char} (h : c.isDigit) : ¬ Cpu.isspace c := by
  obtain ⟨hdesde, hhasta⟩ := entre_digitos h
  have hblanco : c ≠ ' ' := by
    rintro rfl
    exact absurd hdesde (by decide)
  have hretorno : ¬ c ≤ '\r' := by
    intro hc
    have hvalor : c.val.toNat ≤ 13 := UInt32.le_iff_toNat_le.mp hc
    omega
  simp only [Cpu.isspace, hblanco, hretorno, decide_false, Bool.and_false, Bool.or_false, Bool.false_eq_true,
    not_false_eq_true]

/-- A value goes through the text as the `int` with its bits. -/
theorem atoi_decimal (valor : UInt32) : atoi (decimal valor) = valor.toInt32 := by
  have hdigitos : ∀ c ∈ (decimal valor).toList, c.isDigit := fun c hc ↦ isDigit_of_mem_decimal hc
  have hlista : (decimal valor).toList = Nat.toDigits 10 valor.toNat := Nat.toList_repr
  have hblancos : (decimal valor).toList.dropWhile Cpu.isspace = (decimal valor).toList := by
    cases hprimero : (decimal valor).toList with
    | nil => rfl
    | cons c resto =>
      apply List.dropWhile_cons_of_neg
      exact not_isspace (hdigitos c (hprimero ▸ List.mem_cons_self))
  unfold atoi
  rw [hblancos]
  split
  · rename_i digitos hresto
    have hmenos := hdigitos '-' (hresto ▸ List.mem_cons_self)
    cases hmenos
  · rename_i digitos hresto
    have hmas := hdigitos '+' (hresto ▸ List.mem_cons_self)
    cases hmas
  · have htodos : (decimal valor).toList.takeWhile Char.isDigit = (decimal valor).toList :=
      List.takeWhile_eq_self_iff.mpr hdigitos
    have hnumero : (decimal valor).toList.foldl (fun valor c ↦ 10 * valor + (c.toNat - '0'.toNat)) 0 =
        valor.toNat := by
      rw [hlista, ← Nat.ofDigitChars_eq_foldl, Nat.ofDigitChars_toDigits (by decide) (by decide)]
    have hcabe : ((valor.toNat : ℕ) : ℤ) ≤ 2 ^ 63 - 1 := by
      have hvalor := valor.toNat_lt
      omega
    simp only [htodos, hnumero]
    rw [min_eq_right hcabe, Int32.ofInt_eq_ofNat, ← UInt32.toInt32_ofNat', UInt32.ofNat_toNat]

/-- The `int` becomes the value again where it is made a `uint32_t`. -/
theorem ofInt_toInt32 (valor : UInt32) : UInt32.ofInt valor.toInt32.toInt = valor := by
  have hentero : valor.toInt32.toInt = (valor.toNat : ℤ).bmod (2 ^ 32) := BitVec.toInt_eq_toNat_bmod valor.toBitVec
  have hresto : valor.toInt32.toInt % 2 ^ 32 = (valor.toNat : ℤ) := by
    calc valor.toInt32.toInt % 2 ^ 32 = (valor.toNat : ℤ).bmod (2 ^ 32) % (2 ^ 32 : ℕ) := by rw [hentero]; rfl
      _ = (valor.toNat : ℤ) % (2 ^ 32 : ℕ) := Int.bmod_emod
      _ = valor.toNat := Int.emod_eq_of_lt (Int.natCast_nonneg _) (Int.ofNat_lt.mpr valor.toNat_lt)
  unfold UInt32.ofInt
  rw [hresto, Int.toNat_natCast, UInt32.ofNat_toNat]

/-! ## The syscall of an instruction -/

/-- What an instruction asks for: `STDIN` and `STDOUT` name two registers, all others have their values themselves. -/
def syscallPedida (instr : Instruccion) (registros : Memoria.Registros) : Syscall :=
  let valores : Option (ℤ × ℤ) :=
    match instr.parametros with
    | dir :: tamanio :: _ => some ((obtenerValorRegistro registros dir).toInt32.toInt,
        (obtenerValorRegistro registros tamanio).toInt32.toInt)
    | _ => none
  if instr.nombre = "STDIN" then .stdin valores
  else if instr.nombre = "STDOUT" then .stdout valores
  else syscallDe instr.nombre instr.parametros

section

variable {instr : Instruccion} {registros : Memoria.Registros}

theorem dosEnteros_decimal (primero segundo : UInt32) (otros : List String) :
    dosEnteros (decimal primero :: decimal segundo :: otros) =
      some (primero.toInt32.toInt, segundo.toInt32.toInt) := by
  simp only [dosEnteros, atoi_decimal]

/-- The parameters as they are sent mean what the instruction asks for. -/
theorem syscallDe_resueltos (instr : Instruccion) (registros : Memoria.Registros) :
    syscallDe instr.nombre (paramsDevueltos instr registros) = syscallPedida instr registros := by
  obtain ⟨nombre, params⟩ := instr
  unfold paramsDevueltos
  by_cases hmemoria : esSyscallMemoria nombre = true
  · have hnombre := esSyscallMemoria_iff.mp hmemoria
    rw [if_pos hmemoria]
    cases params with
    | nil => rcases hnombre with rfl | rfl <;> rfl
    | cons dir resto =>
      cases resto with
      | nil => rcases hnombre with rfl | rfl <;> rfl
      | cons tamanio otros =>
        have hresueltos : resolverParametrosSyscallIo nombre (dir :: tamanio :: otros) registros =
            decimal (obtenerValorRegistro registros dir) :: decimal (obtenerValorRegistro registros tamanio) ::
              otros := by
          rcases hnombre with rfl | rfl <;> rfl
        have henteros := dosEnteros_decimal (obtenerValorRegistro registros dir)
          (obtenerValorRegistro registros tamanio) otros
        rw [hresueltos]
        rcases hnombre with rfl | rfl
        · exact congrArg Syscall.stdin henteros
        · exact congrArg Syscall.stdout henteros
  · obtain ⟨hstdin, hstdout⟩ := not_or.mp (mt esSyscallMemoria_iff.mpr hmemoria)
    unfold syscallPedida
    rw [if_neg hmemoria, if_neg hstdin, if_neg hstdout]

/-- A resolved parameter is a number, and the others are as they were. -/
theorem sinNul_resueltos (h : ∀ param ∈ instr.parametros, SinNul param) :
    ∀ param ∈ paramsDevueltos instr registros, SinNul param := by
  unfold paramsDevueltos resolverParametrosSyscallIo
  split
  · split
    · exact h
    · intro param hparam
      rcases List.mem_append.mp hparam with hnumero | hresto
      · obtain ⟨registro, -, rfl⟩ := List.mem_map.mp hnumero
        exact sinNul_decimal _
      · exact h param (List.mem_of_mem_drop hresto)
  · exact h

theorem textoDe_devueltos (h : ∀ param ∈ instr.parametros, SinNul param) :
    ((paramsDevueltos instr registros).map cadenaDe).map textoDe = paramsDevueltos instr registros := by
  have hcada : ∀ param ∈ paramsDevueltos instr registros, (textoDe ∘ cadenaDe) param = id param :=
    fun param hparam ↦ textoDe_cadenaDe (sinNul_resueltos h param hparam)
  rw [List.map_map, List.map_congr_left hcada, List.map_id]

theorem syscallPedida_memoria (registros : Memoria.Registros) {dir tamanio : String} {otros : List String}
    (hmemoria : esSyscallMemoria instr.nombre = true) (hdos : instr.parametros = dir :: tamanio :: otros) :
    let valores := some ((obtenerValorRegistro registros dir).toInt32.toInt,
      (obtenerValorRegistro registros tamanio).toInt32.toInt)
    syscallPedida instr registros = .stdin valores ∨ syscallPedida instr registros = .stdout valores := by
  unfold syscallPedida
  rw [hdos]
  rcases esSyscallMemoria_iff.mp hmemoria with hstdin | hstdout
  · left
    rw [if_pos hstdin]
  · right
    have hotro : instr.nombre ≠ "STDIN" := by
      rw [hstdout]
      decide
    rw [if_neg hotro, if_pos hstdout]

/-- The scheduler takes from the socket the process and what its instruction asks for. Where it makes `uint32_t`s of
what `STDIN` and `STDOUT` ask for, these are the address and the size in the registers. -/
theorem syscall_recibida [Recepcion] (pid : Int32) (instr : Instruccion) (registros : Memoria.Registros)
    (hnombre : SinNul instr.nombre) (hparams : ∀ param ∈ instr.parametros, SinNul param)
    (hllega : Llega (devolverSyscall pid instr registros).stream.length) :
    Reads leerDevuelto (serializarPaquete (devolverSyscall pid instr registros))
        (some (pid, .syscall (syscallPedida instr registros))) ∧
      ∀ dir tamanio otros, esSyscallMemoria instr.nombre = true → instr.parametros = dir :: tamanio :: otros →
        ∃ enDir enTamanio, (syscallPedida instr registros = .stdin (some (enDir, enTamanio)) ∨
            syscallPedida instr registros = .stdout (some (enDir, enTamanio))) ∧
          UInt32.ofInt enDir = obtenerValorRegistro registros dir ∧
          UInt32.ofInt enTamanio = obtenerValorRegistro registros tamanio := by
  constructor
  · have hrecibe := (Corresponde.devolverProceso pid motivoSyscall
      (some ⟨cadenaDe instr.nombre, (paramsDevueltos instr registros).map cadenaDe⟩) (by simp)).recibe hllega
    apply reads_trasCodigo
    have hcodigo : (devolverSyscall pid instr registros).codigo = .devolverProceso := rfl
    simp only [hcodigo, Red.OpCode.deValor_valor]
    apply hrecibe.finish
    simp only [textoDe_cadenaDe hnombre, textoDe_devueltos hparams, syscallDe_resueltos]
  · intro dir tamanio otros hmemoria hdos
    have hvalores := syscallPedida_memoria registros hmemoria hdos
    exact ⟨_, _, hvalores, ofInt_toInt32 _, ofInt_toInt32 _⟩

end

/-- An address past the largest `int`, in a register, and a size of one byte. -/
def stdinDeRegistros : Instruccion := ⟨"STDIN", ["EAX", "BX"]⟩

def registrosAltos : Memoria.Registros := { Memoria.Registros.cero with eax := 4294967280, bx := 200 }

section Muestra

local instance recepcionDeSyscalls : Recepcion := recepcionTipica

theorem syscall_recibida_alta :
    Reads leerDevuelto (serializarPaquete (devolverSyscall 3 stdinDeRegistros registrosAltos))
        (some (3, .syscall (.stdin (some (-16, 200))))) := by
  have hrecibida := syscall_recibida 3 stdinDeRegistros registrosAltos (by decide +kernel) (by decide +kernel)
    (by decide +kernel)
  exact hrecibida.1

end Muestra

end PlugAndPlay.Planificador
