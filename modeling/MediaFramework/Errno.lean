/-!
# Error numbers

The values of `errno.h` that the modelled code returns, always negated.
-/

namespace MediaFramework

def EPERM : Int := 1
def ENOENT : Int := 2
def EINTR : Int := 4
def EAGAIN : Int := 11
def ENOMEM : Int := 12
def EINVAL : Int := 22
def EMFILE : Int := 24
def EFBIG : Int := 27
def ENOSPC : Int := 28
def EPIPE : Int := 32
def ENOSYS : Int := 38
def ENODATA : Int := 61
def ENOTSUP : Int := 95
def ECANCELED : Int := 125

end MediaFramework
