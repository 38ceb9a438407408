/-! The error numbers of the C library the unit is built with. Functions return
zero or a negated error number. -/

namespace Errno

@[simp] def eperm : Int := 1
@[simp] def enoent : Int := 2
@[simp] def eio : Int := 5
@[simp] def eagain : Int := 11
@[simp] def enomem : Int := 12
@[simp] def eacces : Int := 13
@[simp] def ebusy : Int := 16
@[simp] def eexist : Int := 17
@[simp] def enotdir : Int := 20
@[simp] def eisdir : Int := 21
@[simp] def einval : Int := 22
@[simp] def efbig : Int := 27
@[simp] def enospc : Int := 28
@[simp] def enodata : Int := 61
@[simp] def eproto : Int := 71
@[simp] def ebadmsg : Int := 77
@[simp] def enosys : Int := 88
@[simp] def enotempty : Int := 90
@[simp] def enametoolong : Int := 91
@[simp] def econnreset : Int := 104
@[simp] def econnrefused : Int := 111
@[simp] def econnaborted : Int := 113
@[simp] def etimedout : Int := 116
@[simp] def ehostunreach : Int := 118
@[simp] def ealready : Int := 120
@[simp] def emsgsize : Int := 122
@[simp] def enotsup : Int := 134
@[simp] def eoverflow : Int := 139

theorem eio_refuses : -eio ≠ 0 := by decide

theorem enomem_refuses : -enomem ≠ 0 := by decide

theorem einval_refuses : -einval ≠ 0 := by decide

theorem enospc_refuses : -enospc ≠ 0 := by decide

end Errno
